import JspEndpoint.Proofs.AssemblyChannels
import JspEndpoint.Proofs.ClassNames

/-!
What a route says about its class. The stem of the route is what follows its last slash, cut before
the last dot. A stem of underscores names nothing; any other gives a class name, the stem itself or
its words run together, without underscores and slashes. The slash put in front of a route does not
change the name, so every converted class is named by its own route.
-/

namespace JspEndpoint.Text

theorem caseless_separators : Caseless '_' ∧ Caseless '/' := by
  constructor <;> constructor <;> decide +kernel

theorem upperChar_ne_nil (c : Char) : upperChar c ≠ [] := by
  have wide : ∀ e ∈ upperExpansions, (!e.2.isEmpty) = true := List.all_eq_true.1 (by decide)
  unfold upperChar changeCase
  split
  · next codes listed =>
    obtain ⟨front, back, split, -⟩ := List.lookup_eq_some_iff.1 listed
    have some_code := wide (c.toNat, codes) (by simp [split])
    simpa using some_code
  · exact List.cons_ne_nil _ _

theorem capitalize_ne_nil {word : Text} (ne : word ≠ []) : capitalize word ≠ [] := by
  obtain ⟨c, rest, rfl⟩ := List.exists_cons_of_ne_nil ne
  exact List.append_ne_nil_of_left_ne_nil (upperChar_ne_nil c) _

section Pieces

variable {separator : Char} {t piece : Text}

theorem separator_notMem_of_mem_splitOn (h : piece ∈ splitOn separator t) : separator ∉ piece := by
  induction t generalizing piece with
  | nil =>
    rw [splitOn, List.mem_singleton] at h
    simp [h]
  | cons c t ih =>
    rw [splitOn] at h
    split at h
    · rcases List.mem_cons.1 h with rfl | later
      · exact List.not_mem_nil
      · exact ih later
    · next other =>
      split at h
      · rw [List.mem_singleton.1 h, List.mem_singleton]
        exact Ne.symm other
      · next first rest cut =>
        rw [cut] at ih
        rcases List.mem_cons.1 h with rfl | later
        · rw [List.mem_cons, not_or]
          exact ⟨Ne.symm other, ih List.mem_cons_self⟩
        · exact ih (List.mem_cons_of_mem first later)

theorem exists_mem_splitOn {c : Char} (found : c ∈ t) (other : c ≠ separator) :
    ∃ piece ∈ splitOn separator t, c ∈ piece := by
  have occurs : [c] <:+: [separator].intercalate (splitOn separator t) := by
    obtain ⟨front, back, split⟩ := List.append_of_mem found
    rw [intercalate_splitOn, split]
    exact ⟨front, back, by simp⟩
  obtain ⟨piece, listed, inside⟩ := exists_infix_of_intercalate (List.cons_ne_nil c [])
    (List.cons_ne_nil separator []) (by simpa using Ne.symm other) occurs
  exact ⟨piece, listed, inside.subset List.mem_cons_self⟩

end Pieces

end JspEndpoint.Text

namespace JspEndpoint.Endpoint

open JspEndpoint.Template JspEndpoint.Text

section Stem

/-- What follows the last slash of a route. -/
def IsSegment (route segment : Text) : Prop :=
  '/' ∉ segment ∧ (route = segment ∨ ∃ front, route = front ++ '/' :: segment)

/-- A segment without its last dot and what follows that. -/
def IsCutAtDot (segment stem : Text) : Prop :=
  '.' ∉ segment ∧ stem = segment ∨ ∃ ending, '.' ∉ ending ∧ segment = stem ++ '.' :: ending

def IsStem (route stem : Text) : Prop :=
  ∃ segment, IsSegment route segment ∧ IsCutAtDot segment stem

theorem forall_ne_iff {m : Char} {t : Text} : (∀ c ∈ t, decide (c = m) = false) ↔ m ∉ t := by
  simp only [decide_eq_false_iff_not]
  exact ⟨fun h found => h m found rfl, fun h c found same => h (same ▸ found)⟩

theorem isSegment_iff {route segment : Text} :
    IsSegment route segment ↔ segment = afterLast (· = '/') route := by
  constructor
  · rintro ⟨free, rfl | ⟨front, rfl⟩⟩
    · exact (afterLast_of_free (forall_ne_iff.2 free)).symm
    · exact (afterLast_append front (by simp) (forall_ne_iff.2 free)).symm
  · rintro rfl
    refine ⟨forall_ne_iff.1 free_afterLast, ?_⟩
    rcases lastMark_cases (· = '/') route with free | ⟨front, m, rest, rfl, marked, free⟩
    · exact .inl (afterLast_of_free free).symm
    · rw [afterLast_append front marked free]
      exact .inr ⟨front, by rw [of_decide_eq_true marked]⟩

theorem isCutAtDot_iff {segment stem : Text} :
    IsCutAtDot segment stem ↔ stem = beforeLast (· = '.') segment := by
  constructor
  · rintro (⟨free, rfl⟩ | ⟨ending, free, rfl⟩)
    · rw [beforeLast, cutAtLast?_eq_none.2 (forall_ne_iff.2 free)]
    · rw [beforeLast, cutAtLast?_append stem (by simp) (forall_ne_iff.2 free)]
  · rintro rfl
    unfold beforeLast
    split
    · next front rest cut =>
      obtain ⟨m, marked, rfl, free⟩ := eq_of_cutAtLast? cut
      exact .inr ⟨rest, forall_ne_iff.1 free, by rw [of_decide_eq_true marked]⟩
    · next cut => exact .inl ⟨forall_ne_iff.1 (cutAtLast?_eq_none.1 cut), rfl⟩

theorem isStem_iff {route stem : Text} : IsStem route stem ↔ stem = routeStem route := by
  simp only [IsStem, isSegment_iff, isCutAtDot_iff, exists_eq_left, routeStem]

theorem slash_notMem_routeStem (route : Text) : '/' ∉ routeStem route := fun found =>
  forall_ne_iff.1 free_afterLast (mem_of_mem_beforeLast found)

end Stem

section Words

variable {name : Text}

theorem camelize_of_notMem (plain : '_' ∉ name) : camelize name = name := if_neg plain

theorem underscore_notMem_camelize (name : Text) : '_' ∉ camelize name := by
  unfold camelize
  split
  · intro found
    obtain ⟨piece, kept, inside⟩ := List.mem_flatMap.1 found
    exact separator_notMem_of_mem_splitOn (List.mem_filter.1 kept).1
      (caseless_separators.1.mem_of_mem_capitalize inside)
  · assumption

theorem camelize_camelize (name : Text) : camelize (camelize name) = camelize name :=
  camelize_of_notMem (underscore_notMem_camelize name)

theorem camelize_eq_nil_iff : camelize name = [] ↔ ∀ c ∈ name, c = '_' := by
  by_cases joined : '_' ∈ name
  · rw [camelize, if_pos joined, List.flatMap_eq_nil_iff]
    constructor
    · intro empty c found
      by_contra other
      obtain ⟨piece, listed, inside⟩ := exists_mem_splitOn found other
      have ne : piece ≠ [] := List.ne_nil_of_mem inside
      exact capitalize_ne_nil ne (empty piece (List.mem_filter.2 ⟨listed, by simpa using ne⟩))
    · intro only piece kept
      obtain ⟨listed, some_char⟩ := List.mem_filter.1 kept
      obtain ⟨c, rest, rfl⟩ := List.exists_cons_of_ne_nil (by simpa using some_char)
      have underscore := only c (mem_of_mem_splitOn listed List.mem_cons_self)
      exact absurd (underscore ▸ List.mem_cons_self) (separator_notMem_of_mem_splitOn listed)
  · rw [camelize_of_notMem joined]
    constructor
    · rintro rfl
      exact fun c found => absurd found List.not_mem_nil
    · intro only
      rw [List.eq_nil_iff_forall_not_mem]
      exact fun c found => joined (only c found ▸ found)

/-- A word with its first character in upper case and the others in lower case. -/
def Capitalized (word capital : Text) : Prop :=
  ∃ c rest, word = c :: rest ∧ capital = upperChar c ++ lower rest

/-- How a class is named after a stem. -/
structure NamedAfter (stem name : Text) : Prop where
  ne_nil : name ≠ []
  underscore : '_' ∉ name
  slash : '/' ∉ name
  plain : '_' ∉ stem → name = stem
  joined : '_' ∈ stem → ∃ capitals,
    List.Forall₂ Capitalized ((List.splitOn '_' stem).filter (!·.isEmpty)) capitals ∧
      name = capitals.flatten

theorem forall₂_capitalize {words : List Text} (ne : ∀ word ∈ words, word ≠ []) :
    List.Forall₂ Capitalized words (words.map capitalize) := by
  rw [List.forall₂_map_right_iff, List.forall₂_same]
  intro word listed
  obtain ⟨c, rest, rfl⟩ := List.exists_cons_of_ne_nil (ne word listed)
  exact ⟨c, rest, rfl, rfl⟩

theorem namedAfter_classNameOf {route : Text} (named : classNameOf route ≠ []) :
    NamedAfter (routeStem route) (classNameOf route) where
  ne_nil := named
  underscore := underscore_notMem_camelize _
  slash found := slash_notMem_routeStem route (mem_of_mem_camelize caseless_separators.2 found)
  plain := camelize_of_notMem
  joined found := by
    refine ⟨_, forall₂_capitalize fun word kept => ?_, ?_⟩
    · simpa using (List.mem_filter.1 kept).2
    · rw [classNameOf, camelize, if_pos found, splitOn_eq, List.flatMap_def]

end Words

theorem slash_isPrefix_normalizeRoute (route : Text) :
    startsWith (normalizeRoute route) ['/'] = true := by
  unfold normalizeRoute
  split
  · assumption
  · rfl

theorem normalizeRoute_normalizeRoute (route : Text) :
    normalizeRoute (normalizeRoute route) = normalizeRoute route := by
  rw [normalizeRoute, if_pos (slash_isPrefix_normalizeRoute route)]

theorem routeStem_normalizeRoute (route : Text) :
    routeStem (normalizeRoute route) = routeStem route := by
  unfold normalizeRoute
  split
  · rfl
  · -- the slash in front is the last one only if there is no other
    have segment : afterLast (· = '/') ('/' :: route) = afterLast (· = '/') route := by
      rcases lastMark_cases (· = '/') route with free | ⟨front, m, rest, rfl, marked, free⟩
      · rw [afterLast_of_free free]
        exact afterLast_append [] (by simp) free
      · rw [afterLast_append front marked free]
        exact afterLast_append ('/' :: front) marked free
    rw [routeStem, segment, routeStem]

theorem classNameOf_normalizeRoute (route : Text) :
    classNameOf (normalizeRoute route) = classNameOf route := by
  rw [classNameOf, routeStem_normalizeRoute, classNameOf]

end JspEndpoint.Endpoint

namespace JspEndpoint.Page

open JspEndpoint.Template JspEndpoint.Endpoint

theorem frame_of_convert {p : Page} {template : Option Text} {c : EndpointClass}
    (h : p.convert template = .ok c) :
    c.className = p.className ∧ c.routePath = normalizeRoute p.routePath := by
  cases template with
  | none => cases h
  | some source =>
    rw [eq_of_convert h]
    have frame := Assembly.frame_addAll (Assembly.start
      (EndpointClass.new p.package p.className p.routePath p.sourcePath)) (recognize source)
    exact ⟨congrArg EndpointClass.className frame, congrArg EndpointClass.routePath frame⟩

/-- A route is refused exactly if its stem is made of underscores alone. Any other page has a name
after that stem, and each class converted from it has the name of its own route. -/
theorem named_by_route (route : Text) :
    (∃ stem, (∀ other, IsStem route other ↔ other = stem) ∧
      ∀ sourcePath package options,
        ((∀ c ∈ stem, c = '_') →
          Page.new? sourcePath package route options = .error (.noClassName route)) ∧
        ((∃ c ∈ stem, c ≠ '_') → ∃ p : Page,
          Page.new? sourcePath package route options = .ok p ∧ NamedAfter stem p.className ∧
          p.className = classNameOf p.routePath ∧
          ∀ template c, p.convert template = .ok c →
            c.className = p.className ∧ c.className = classNameOf c.routePath)) ∧
    (∀ name, camelize (camelize name) = camelize name) ∧
    classNameOf (normalizeRoute route) = classNameOf route ∧
    ∀ package className sourcePath,
      (EndpointClass.new package className (normalizeRoute route) sourcePath).routePath =
        normalizeRoute route := by
  refine ⟨⟨routeStem route, fun _ => isStem_iff, fun sourcePath package options => ⟨?_, ?_⟩⟩,
    camelize_camelize, classNameOf_normalizeRoute route,
    fun _ _ _ => normalizeRoute_normalizeRoute route⟩
  · intro only
    have empty : classNameOf route = [] := camelize_eq_nil_iff.2 only
    rw [new?, empty]
    rfl
  · rintro ⟨c, found, other⟩
    have named : classNameOf route ≠ [] := fun empty => other (camelize_eq_nil_iff.1 empty c found)
    refine ⟨⟨sourcePath, package, normalizeRoute route, classNameOf route, options⟩, ?_,
      namedAfter_classNameOf named, (classNameOf_normalizeRoute route).symm, fun template d made => ?_⟩
    · rw [new?, if_neg (by simpa using named)]
    · obtain ⟨name, path⟩ := frame_of_convert made
      refine ⟨name, ?_⟩
      rw [name, path, classNameOf_normalizeRoute, classNameOf_normalizeRoute]

end JspEndpoint.Page
