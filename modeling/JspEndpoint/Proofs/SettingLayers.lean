import JspEndpoint.Proofs.CommandTraces
import JspEndpoint.Proofs.StoredSettings

/-!
Settings from layers. Loading fails only for a file that is required and not found. Otherwise every
setting has, by itself, the value of its last override, or else that of the last file that assigns
it, or else the standard one. Where the overrides stand among the files does not matter, and neither
does an optional file that is not there. On the command line switches come before the file named
there, and that before the one in the working directory.
-/

namespace JspEndpoint.Settings

namespace Setting

def key (x : Setting) : Text := x.home ++ '.' :: x.field

def path (x : Setting) : KeyPath := ⟨x.home, [.child x.field]⟩

theorem names : ∀ x ∈ all, Text.lower x.home = x.home ∧ Text.lower x.field = x.field ∧
    KeyPath.ofText? x.key = some x.path ∧ ∀ y ∈ all, y.field = x.field → y = x := by
  decide +kernel

theorem ofText?_key (x : Setting) : KeyPath.ofText? x.key = some x.path :=
  (names x x.mem_all).2.2.1

theorem eq_of_field {x y : Setting} (h : y.field = x.field) : y = x :=
  (names x x.mem_all).2.2.2 y y.mem_all h

theorem path_injective : Function.Injective path := by
  intro x y same
  have steps : [KeyStep.child x.field] = [KeyStep.child y.field] := congrArg KeyPath.steps same
  exact eq_of_field (KeyStep.child.inj (List.singleton_inj.1 steps))

theorem key_injective : Function.Injective key := by
  intro x y same
  have paths := congrArg KeyPath.ofText? same
  rw [ofText?_key, ofText?_key] at paths
  exact path_injective (Option.some.inj paths)

theorem pathGiven?_path (x y : Setting) (d : Data) :
    pathGiven? y.path d x = if x = y then x.accept? d else none := by
  obtain ⟨home, field, -⟩ := names y y.mem_all
  have given : pathGiven? y.path d x =
      if x.home = y.home ∧ x.field = y.field then x.accept? d else none := by
    rw [← home, ← field]
    rfl
  rw [given]
  by_cases same : x = y
  · rw [if_pos same, if_pos (by rw [same]; exact ⟨rfl, rfl⟩)]
  · rw [if_neg same, if_neg fun both => same (eq_of_field both.2)]

theorem pathFits_path {y : Setting} {d : Data} (accepted : (y.accept? d).isSome = true) :
    pathFits y.path d = true := by
  have own : fieldFits (Text.lower y.home) y.field d = true := by
    refine List.all_eq_true.2 fun x _ => ?_
    rw [(names y y.mem_all).2.1]
    by_cases same : x = y
    · rw [same, accepted, Bool.or_true]
    · rw [decide_eq_false fun both => same (eq_of_field both.2)]
      rfl
  unfold pathFits
  exact Bool.or_eq_true_iff.2 (.inr own)

end Setting

section Files

variable (tree : FileTree)

/-- What a settings file sets, if it can be read. -/
def contents? (path : Text) : Option Writes :=
  match tree.find path with
  | .ok (.file content) => (Toml.document? (Toml.skipMark content.salvaged)).map Writes.ofEntries
  | _ => none

/-- Whether the file that a path leads to, if there is one, can be read and has values of the right
types. The file may give one setting under two spellings, which differ in the case of letters only.
The later one counts then, but by convention: nothing promises an order to such names. -/
def fileFits (path : Text) : Bool :=
  match locate? tree path with
  | some found => (contents? tree found).any Writes.fit
  | none => true

/-- What the file that a path leads to gives to a setting. -/
def fileGiven? (path : Text) (x : Setting) : Option x.Kind :=
  ((locate? tree path).bind (contents? tree)).bind fun writes => writes.given? x

namespace Layer

/-- Whether a layer gives values of the right types, to settings only if it is an override. -/
def fits : Layer → Bool
  | file path | optionalFile path => fileFits tree path
  | override key d => Setting.all.any fun x => decide (key = x.key) && (x.accept? d).isSome

/-- What a layer gives to a setting as a file. -/
def assigned? (layer : Layer) (x : Setting) : Option x.Kind :=
  match layer with
  | file path | optionalFile path => fileGiven? tree path x
  | override _ _ => none

def overridden? (layer : Layer) (x : Setting) : Option x.Kind :=
  match layer with
  | override key d => if key = x.key then x.accept? d else none
  | _ => none

def isOverride : Layer → Bool
  | override _ _ => true
  | _ => false

theorem overridden?_key (x y : Setting) (d : Data) :
    overridden? (override y.key d) x = if x = y then x.accept? d else none := by
  rw [overridden?]
  by_cases same : x = y
  · rw [if_pos same, if_pos (by rw [same])]
  · rw [if_neg same, if_neg fun keys => same (Setting.key_injective keys).symm]

end Layer

variable {tree}

theorem readFile_of_contents? {path : Text} {writes : Writes}
    (h : contents? tree path = some writes) :
    ∃ entries, readFile tree path = .ok (Value.ofEntries (some (originOf path)) entries) ∧
      writes = Writes.ofEntries entries := by
  unfold contents? at h
  split at h
  · next content found =>
    obtain ⟨entries, read, rfl⟩ := Option.map_eq_some_iff.1 h
    exact ⟨entries, by simp only [readFile, found, read], rfl⟩
  · cases h

theorem exists_of_fileFits {path found : Text} (fits : fileFits tree path = true)
    (located : locate? tree path = some found) :
    ∃ entries, readFile tree found = .ok entries ∧
      ∀ store values, Holds store values →
        Holds (store.setAll entries) (values.after (fileGiven? tree path)) := by
  rw [fileFits, located] at fits
  obtain ⟨writes, read, fit⟩ := (Option.any_eq_true _ _).1 fits
  obtain ⟨entries, file, rfl⟩ := readFile_of_contents? read
  refine ⟨_, file, fun store values holds => ?_⟩
  have given : fileGiven? tree path = (Writes.ofEntries entries).given? := by
    funext x
    rw [fileGiven?, located, Option.bind_some, read, Option.bind_some]
  rw [given, setAll_eq]
  exact holds.perform fit _

theorem fileGiven?_of_nowhere {path : Text} (nowhere : locate? tree path = none) (x : Setting) :
    fileGiven? tree path x = none := by
  rw [fileGiven?, nowhere]
  rfl

end Files

section Laying

variable {tree : FileTree}

/-- Lays a layer over a store, overrides apart. -/
def Layer.lay (tree : FileTree) (store : Value) (layer : Layer) : Except SettingsError Value := do
  return Value.setAll store (← layer.entries tree)

theorem load_eq (tree : FileTree) (layers : List Layer) :
    load tree layers = (do
      let overrides ← layers.foldlM Layer.addOverride []
      let store ← layers.foldlM (Layer.lay tree) standard.toValue
      ofValue (Writes.perform overrides none store)) := rfl

theorem Layer.lay_cases {layer : Layer} (fits : layer.fits tree = true) {store : Value}
    {values : Values} (holds : Holds store values) :
    (∃ path, layer = .file path ∧ locate? tree path = none ∧
      layer.lay tree store = .error (.fileNotFound path)) ∨
    (∀ path, layer = .file path → locate? tree path ≠ none) ∧
      ∃ laid, layer.lay tree store = .ok laid ∧
        Holds laid (values.after (layer.assigned? tree)) := by
  cases layer with
  | override key d =>
    exact .inr ⟨fun _ same => Layer.noConfusion same, store, rfl, holds⟩
  | file path =>
    cases located : locate? tree path with
    | none =>
      refine .inl ⟨path, rfl, located, ?_⟩
      simp only [lay, entries, located]
      rfl
    | some found =>
      obtain ⟨read, file, laid⟩ := exists_of_fileFits fits located
      refine .inr ⟨fun other same => ?_, store.setAll read, ?_, laid store values holds⟩
      · obtain rfl := Layer.file.inj same
        rw [located]
        exact Option.some_ne_none found
      · simp only [lay, entries, located, file]
        rfl
  | optionalFile path =>
    refine .inr ⟨fun _ same => Layer.noConfusion same, ?_⟩
    cases located : locate? tree path with
    | none =>
      refine ⟨store, ?_, holds.congr fun x => ?_⟩
      · simp only [lay, entries, located]
        rfl
      · rw [Values.after, assigned?, fileGiven?_of_nowhere located]
        rfl
    | some found =>
      obtain ⟨read, file, laid⟩ := exists_of_fileFits fits located
      refine ⟨store.setAll read, ?_, laid store values holds⟩
      simp only [lay, entries, located, file]
      rfl

theorem lay_all_cases {layers : List Layer} (fits : ∀ layer ∈ layers, layer.fits tree = true)
    {store : Value} {values : Values} (holds : Holds store values) :
    (∃ path, .file path ∈ layers ∧ locate? tree path = none ∧
      layers.foldlM (Layer.lay tree) store = .error (.fileNotFound path)) ∨
    (∀ path, .file path ∈ layers → locate? tree path ≠ none) ∧
      ∃ laid, layers.foldlM (Layer.lay tree) store = .ok laid ∧
        Holds laid (values.after fun x => (layers.filterMap (·.assigned? tree x)).getLast?) := by
  induction layers generalizing store values with
  | nil => exact .inr ⟨fun path listed => absurd listed List.not_mem_nil, store, rfl, holds⟩
  | cons layer rest ih =>
    obtain ⟨first, later⟩ := List.forall_mem_cons.1 fits
    rw [List.foldlM_cons]
    rcases layer.lay_cases first holds with ⟨path, rfl, nowhere, fails⟩ | ⟨there, laid, laid_ok, next⟩
    · refine .inl ⟨path, List.mem_cons_self, nowhere, ?_⟩
      rw [fails]
      rfl
    · have onward : (layer.lay tree store >>= fun s => rest.foldlM (Layer.lay tree) s) =
          rest.foldlM (Layer.lay tree) laid := by
        rw [laid_ok]
        rfl
      rw [onward]
      rcases ih later next with ⟨path, listed, nowhere, fails⟩ | ⟨all_there, last, last_ok, final⟩
      · exact .inl ⟨path, List.mem_cons_of_mem layer listed, nowhere, fails⟩
      · refine .inr ⟨fun path listed => ?_, last, last_ok, final.congr fun x => ?_⟩
        · rcases List.mem_cons.1 listed with here | listed
          · exact there path here.symm
          · exact all_there path listed
        · exact values.after_cons (fun x (layer : Layer) => layer.assigned? tree x) layer rest x

end Laying

section Overriding

/-- Overrides that each give a setting a value of its type. -/
def Overrides.Known (overrides : Overrides) : Prop :=
  ∀ w ∈ overrides, ∃ y : Setting, w.1 = y.path ∧ (y.accept? w.2).isSome = true

theorem Overrides.Known.fit {overrides : Overrides} (h : overrides.Known) :
    Writes.fit overrides = true := by
  refine List.all_eq_true.2 fun w listed => ?_
  obtain ⟨y, same, accepted⟩ := h w listed
  rw [same]
  exact Setting.pathFits_path accepted

theorem Overrides.Known.put {overrides : Overrides} (h : overrides.Known) {y : Setting} {d : Data}
    (accepted : (y.accept? d).isSome = true) : (overrides.put y.path d).Known := by
  intro w listed
  rcases List.mem_append.1 listed with earlier | last
  · exact h w (List.mem_filter.1 earlier).1
  · rw [List.mem_singleton.1 last]
    exact ⟨y, rfl, accepted⟩

theorem given?_concat (writes : Writes) (w : KeyPath × Data) (x : Setting) :
    Writes.given? (writes ++ [w]) x = (pathGiven? w.1 w.2 x).or (writes.given? x) := by
  rw [Writes.given?, List.filterMap_append, List.getLast?_append, getLast?_filterMap_cons,
    List.filterMap_nil, List.getLast?_nil, Option.none_or, Writes.given?]

theorem given?_filter_path {x y : Setting} (ne : x ≠ y) (overrides : Overrides) :
    Writes.given? (overrides.filter (·.1 ≠ y.path)) x = Writes.given? overrides x := by
  rw [Writes.given?, Writes.given?, List.filterMap_filter]
  congr 1
  refine List.filterMap_congr fun w _ => ?_
  by_cases here : w.1 = y.path
  · rw [here, Setting.pathGiven?_path, if_neg ne]
    simp
  · simp [here]

theorem given?_put (overrides : Overrides) {y : Setting} {d : Data}
    (accepted : (y.accept? d).isSome = true) (x : Setting) :
    Writes.given? (overrides.put y.path d) x =
      (Layer.overridden? (.override y.key d) x).or (Writes.given? overrides x) := by
  rw [Overrides.put, given?_concat, Setting.pathGiven?_path, Layer.overridden?_key]
  by_cases same : x = y
  · subst same
    obtain ⟨k, value⟩ := Option.isSome_iff_exists.1 accepted
    rw [if_pos rfl, value, Option.some_or, Option.some_or]
  · rw [if_neg same, Option.none_or, Option.none_or, given?_filter_path same]

theorem exists_of_fits_override {tree : FileTree} {key : Text} {d : Data}
    (fits : Layer.fits tree (.override key d) = true) :
    ∃ y : Setting, key = y.key ∧ (y.accept? d).isSome = true := by
  obtain ⟨y, -, both⟩ := List.any_eq_true.1 fits
  rw [Bool.and_eq_true, decide_eq_true_eq] at both
  exact ⟨y, both⟩

theorem addOverride_all {tree : FileTree} {layers : List Layer}
    (fits : ∀ layer ∈ layers, layer.fits tree = true) {overrides : Overrides}
    (known : overrides.Known) :
    ∃ final : Overrides, layers.foldlM Layer.addOverride overrides = .ok final ∧ final.Known ∧
      ∀ x, Writes.given? final x =
        (layers.filterMap (·.overridden? x)).getLast?.or (Writes.given? overrides x) := by
  induction layers generalizing overrides with
  | nil => exact ⟨overrides, rfl, known, fun _ => rfl⟩
  | cons layer rest ih =>
    obtain ⟨first, later⟩ := List.forall_mem_cons.1 fits
    cases layer with
    | override key d =>
      obtain ⟨y, rfl, accepted⟩ := exists_of_fits_override first
      obtain ⟨final, added, final_known, given⟩ := ih later (known.put accepted)
      refine ⟨final, ?_, final_known, fun x => ?_⟩
      · rw [List.foldlM_cons, Layer.addOverride, y.ofText?_key]
        exact added
      · rw [given, given?_put overrides accepted, getLast?_filterMap_cons, Option.or_assoc]
    | _ =>
      obtain ⟨final, added, final_known, given⟩ := ih later known
      exact ⟨final, added, final_known, given⟩

end Overriding

section Loading

variable {tree : FileTree} {layers : List Layer}

/-- What the layers come to for a setting. -/
def valueFrom (tree : FileTree) (layers : List Layer) : Values := fun x =>
  ((layers.filterMap (·.overridden? x)).getLast?.or
    (layers.filterMap (·.assigned? tree x)).getLast?).getD (x.get standard)

theorem load_cases (fits : ∀ layer ∈ layers, layer.fits tree = true) :
    (∃ path, .file path ∈ layers ∧ locate? tree path = none ∧
      load tree layers = .error (.fileNotFound path)) ∨
    (∀ path, .file path ∈ layers → locate? tree path ≠ none) ∧
      load tree layers = .ok (valueFrom tree layers).toSettings := by
  have none_yet : Overrides.Known [] := fun w listed => absurd listed List.not_mem_nil
  obtain ⟨overrides, added, known, given⟩ := addOverride_all fits none_yet
  rcases lay_all_cases fits holds_standard with
    ⟨path, listed, nowhere, fails⟩ | ⟨there, store, laid, holds⟩
  · refine .inl ⟨path, listed, nowhere, ?_⟩
    rw [load_eq, added, fails]
    rfl
  · refine .inr ⟨there, ?_⟩
    have final : Holds (Writes.perform overrides none store) (valueFrom tree layers) := by
      refine (holds.perform known.fit none).congr fun x => ?_
      rw [valueFrom, Values.after, Values.after, given x, Option.getD_or]
      rw [Writes.given?, List.filterMap_nil, List.getLast?_nil, Option.or_none]
    rw [load_eq, added, laid]
    exact final.ofValue

theorem load_error_iff (fits : ∀ layer ∈ layers, layer.fits tree = true) :
    (∃ e, load tree layers = .error e) ↔
      ∃ path, .file path ∈ layers ∧ locate? tree path = none := by
  rcases load_cases fits with ⟨path, listed, nowhere, fails⟩ | ⟨there, loaded⟩
  · exact ⟨fun _ => ⟨path, listed, nowhere⟩, fun _ => ⟨_, fails⟩⟩
  · refine ⟨fun ⟨e, fails⟩ => ?_, fun ⟨path, listed, nowhere⟩ => absurd nowhere (there path listed)⟩
    rw [loaded] at fails
    cases fails

theorem get_of_load (fits : ∀ layer ∈ layers, layer.fits tree = true) {s : Settings}
    (loaded : load tree layers = .ok s) (x : Setting) : x.get s = valueFrom tree layers x := by
  rcases load_cases fits with ⟨path, -, -, fails⟩ | ⟨-, values⟩
  · rw [fails] at loaded
    cases loaded
  · rw [values] at loaded
    rw [← Except.ok.inj loaded, Values.get_toSettings]

theorem foldlM_filter {σ α : Type} {f : σ → α → Except SettingsError σ} {p : α → Bool}
    (idle : ∀ s a, p a = false → f s a = .ok s) (items : List α) (s : σ) :
    (items.filter p).foldlM f s = items.foldlM f s := by
  induction items generalizing s with
  | nil => rfl
  | cons a rest ih =>
    rw [List.foldlM_cons]
    cases active : p a with
    | true =>
      rw [List.filter_cons_of_pos active, List.foldlM_cons]
      congr 1
      funext next
      exact ih next
    | false =>
      rw [List.filter_cons_of_neg (by simp [active]), idle s a active]
      exact ih s

theorem load_congr {others : List Layer}
    (overrides : others.filter Layer.isOverride = layers.filter Layer.isOverride)
    (files : others.filter (!·.isOverride) = layers.filter (!·.isOverride)) :
    load tree others = load tree layers := by
  have no_override : ∀ (o : Overrides) (layer : Layer), layer.isOverride = false →
      layer.addOverride o = .ok o := by
    intro o layer file
    cases layer with
    | override key d => cases file
    | _ => rfl
  have no_file : ∀ (store : Value) (layer : Layer), (!layer.isOverride) = false →
      layer.lay tree store = .ok store := by
    intro store layer override
    cases layer with
    | override key d => rfl
    | _ => cases override
  rw [load_eq, load_eq, ← foldlM_filter no_override others, ← foldlM_filter no_override layers,
    ← foldlM_filter no_file others, ← foldlM_filter no_file layers, overrides, files]

theorem load_absent {path : Text} (nowhere : locate? tree path = none) (front back : List Layer) :
    load tree (front ++ .optionalFile path :: back) = load tree (front ++ back) := by
  have idle (store : Value) : Layer.lay tree store (.optionalFile path) = .ok store := by
    simp only [Layer.lay, Layer.entries, nowhere]
    rfl
  rw [load_eq, load_eq]
  simp only [List.foldlM_append, List.foldlM_cons, idle]
  rfl

end Loading

end JspEndpoint.Settings

namespace JspEndpoint.CommandLine

open JspEndpoint.Settings

/-- What a switch of the command line gives to a setting. -/
def Task.switch? : Task → (x : Setting) → Option x.Kind
  | .convert r, .package => r.package
  | .convert r, .embedSource => if r.noSource then some false else none
  | .convert r, .namedComponent => if r.namedComponent then some true else none
  | _, _ => none

theorem switchKeys : packageKey = Setting.key .package ∧
    namedComponentKey = Setting.key .namedComponent ∧ embedSourceKey = Setting.key .embedSource :=
  ⟨rfl, rfl, rfl⟩

/-- What the switches of a conversion assign. -/
def ConvertRequest.assignments (r : ConvertRequest) : List (Setting × Data) :=
  (r.package.map fun p => (Setting.package, Data.scalar (.text p))).toList ++
  (if r.namedComponent then [(.namedComponent, .scalar (.flag true))] else []) ++
  (if r.noSource then [(.embedSource, .scalar (.flag false))] else [])

theorem ConvertRequest.overrides_eq (r : ConvertRequest) :
    r.overrides = r.assignments.map fun a => Layer.override a.1.key a.2 := by
  obtain ⟨package, named, embed⟩ := switchKeys
  rw [overrides, package, named, embed, assignments]
  cases r.package <;> cases r.namedComponent <;> cases r.noSource <;> rfl

theorem ConvertRequest.accept?_assignments (r : ConvertRequest) :
    ∀ a ∈ r.assignments, (a.1.accept? a.2).isSome = true := by
  intro a listed
  unfold assignments at listed
  rcases List.mem_append.1 listed with earlier | bare
  · rcases List.mem_append.1 earlier with package | named
    · obtain ⟨p, -, rfl⟩ := Option.map_eq_some_iff.1 (Option.mem_toList.1 package)
      rfl
    · split at named
      · rw [List.mem_singleton.1 named]
        rfl
      · cases named
  · split at bare
    · rw [List.mem_singleton.1 bare]
      rfl
    · cases bare

def Task.assignments : Task → List (Setting × Data)
  | .convert r => r.assignments
  | _ => []

theorem Task.accept?_assignments (task : Task) :
    ∀ a ∈ task.assignments, (a.1.accept? a.2).isSome = true := by
  cases task with
  | convert r => exact r.accept?_assignments
  | _ => exact fun a listed => absurd listed List.not_mem_nil

section Switches

variable {tree : FileTree} {r : Request}

theorem Request.layers_eq (r : Request) :
    r.layers = .optionalFile localSettings :: (r.config.map Layer.file).toList ++
      r.task.assignments.map fun a => Layer.override a.1.key a.2 := by
  obtain ⟨config, task⟩ := r
  cases task with
  | convert c => rw [Request.layers, Task.assignments, ← ConvertRequest.overrides_eq]
  | _ => rfl

theorem Task.overridden?_assignments (task : Task) (x : Setting) :
    ((task.assignments.map fun a => Layer.override a.1.key a.2).filterMap
      (·.overridden? x)).getLast? = task.switch? x := by
  cases task with
  | convert c =>
    rw [Task.assignments, List.filterMap_map]
    simp only [Function.comp_def, Layer.overridden?_key, ConvertRequest.assignments]
    obtain ⟨path, package, route, className, named, noSource, output⟩ := c
    cases package <;> cases named <;> cases noSource <;> cases x <;> rfl
  | _ => cases x <;> rfl

theorem Request.fits_layers (here : fileFits tree localSettings = true)
    (named : ∀ path, r.config = some path → fileFits tree path = true) :
    ∀ layer ∈ r.layers, layer.fits tree = true := by
  intro layer listed
  rw [Request.layers_eq] at listed
  rcases List.mem_append.1 listed with file | switch
  · rcases List.mem_cons.1 file with rfl | config
    · exact here
    · obtain ⟨path, given, rfl⟩ := Option.map_eq_some_iff.1 (Option.mem_toList.1 config)
      exact named path given
  · obtain ⟨a, assigned, rfl⟩ := List.mem_map.1 switch
    refine List.any_eq_true.2 ⟨a.1, a.1.mem_all, ?_⟩
    rw [r.task.accept?_assignments a assigned, decide_eq_true rfl]
    rfl

theorem Request.valueFrom_layers (tree : FileTree) (r : Request) (x : Setting) :
    valueFrom tree r.layers x =
      (((r.task.switch? x).or (r.config.bind fun path => fileGiven? tree path x)).or
        (fileGiven? tree localSettings x)).getD (x.get standard) := by
  have no_file : (r.task.assignments.map fun a => Layer.override a.1.key a.2).filterMap
      (·.assigned? tree x) = [] := by
    rw [List.filterMap_map]
    exact List.filterMap_eq_nil_iff.2 fun a _ => rfl
  have overridden : (r.layers.filterMap (·.overridden? x)).getLast? = r.task.switch? x := by
    rw [← r.task.overridden?_assignments, Request.layers_eq, List.filterMap_append]
    cases r.config <;> rfl
  have assigned : (r.layers.filterMap (·.assigned? tree x)).getLast? =
      (r.config.bind fun path => fileGiven? tree path x).or (fileGiven? tree localSettings x) := by
    rw [Request.layers_eq, List.filterMap_append, no_file, List.append_nil, getLast?_filterMap_cons]
    cases config : r.config with
    | none => rfl
    | some path =>
      rw [Option.map_some, Option.toList_some, getLast?_filterMap_cons]
      rfl
  rw [valueFrom, overridden, assigned, Option.or_assoc]

theorem Request.file_mem_layers {path : Text} :
    .file path ∈ r.layers ↔ r.config = some path := by
  rw [Request.layers_eq]
  cases r.config <;> simp [eq_comm]

theorem run_layers_cases {args : List Text} (parsed : Request.ofArguments args = .ok r)
    (here : fileFits tree localSettings = true)
    (named : ∀ path, r.config = some path → fileFits tree path = true) :
    (∃ path, r.config = some path ∧ locate? tree path = none ∧
      run tree args =
        (Action.fail "Configuration error" (SettingsError.fileNotFound path).message).perform tree) ∨
    (∀ path, r.config = some path → locate? tree path ≠ none) ∧
      run tree args = (prepareTask tree (valueFrom tree r.layers).toSettings r.task).perform tree := by
  rw [run_of_arguments parsed, prepareRequest]
  rcases load_cases (Request.fits_layers here named) with
    ⟨path, listed, nowhere, fails⟩ | ⟨there, loaded⟩
  · refine .inl ⟨path, Request.file_mem_layers.1 listed, nowhere, ?_⟩
    rw [fails]
  · refine .inr ⟨fun path given => there path (Request.file_mem_layers.2 given), ?_⟩
    rw [loaded]

end Switches

/-- Loading fails exactly if a required file is not found, and otherwise each setting has the value
of its last override, or that of the last file that assigns it, or the standard one. Overrides can
stand anywhere among the files, and an optional file that is not there anywhere. In a run a switch
comes before the file named on the command line, that before the file in the working directory, and
that before the standard settings, for each setting by itself. -/
theorem settings_layered (tree : FileTree) (layers : List Layer)
    (fits : ∀ layer ∈ layers, layer.fits tree = true) :
    ((∃ e, load tree layers = .error e) ↔
      ∃ path, .file path ∈ layers ∧ locate? tree path = none) ∧
    (∀ s, load tree layers = .ok s → ∀ x : Setting,
      x.get s = ((layers.filterMap (·.overridden? x)).getLast?.or
        (layers.filterMap (·.assigned? tree x)).getLast?).getD (x.get standard)) ∧
    (∀ others : List Layer, others.filter Layer.isOverride = layers.filter Layer.isOverride →
      others.filter (!·.isOverride) = layers.filter (!·.isOverride) →
      load tree others = load tree layers) ∧
    (∀ front back path, layers = front ++ back → locate? tree path = none →
      load tree (front ++ .optionalFile path :: back) = load tree layers) ∧
    ∀ args r, Request.ofArguments args = .ok r → fileFits tree localSettings = true →
      (∀ path, r.config = some path → fileFits tree path = true) →
      (∃ path, r.config = some path ∧ locate? tree path = none ∧
        run tree args =
          (Action.fail "Configuration error" (SettingsError.fileNotFound path).message).perform tree) ∨
      (∀ path, r.config = some path → locate? tree path ≠ none) ∧
        ∃ s, run tree args = (prepareTask tree s r.task).perform tree ∧ ∀ x : Setting,
          x.get s = (((r.task.switch? x).or (r.config.bind fun path => fileGiven? tree path x)).or
            (fileGiven? tree localSettings x)).getD (x.get standard) := by
  refine ⟨load_error_iff fits, fun s loaded => get_of_load fits loaded, fun others => load_congr,
    ?_, ?_⟩
  · rintro front back path rfl nowhere
    exact load_absent nowhere front back
  · intro args r parsed here named
    rcases run_layers_cases parsed here named with missing | ⟨there, runs⟩
    · exact .inl missing
    · refine .inr ⟨there, (valueFrom tree r.layers).toSettings, runs, fun x => ?_⟩
      rw [Values.get_toSettings, r.valueFrom_layers]

theorem settings_layered_interleaved :
    let tree : FileTree :=
      ⟨[(["jsp2rest.toml"], .file (.text "[convert]\npackage='a'\nembed_source=false")),
        (["b.toml"], .file (.text "convert.package='b'")),
        (["c.toml"], .file (.text "logging.level='info'"))]⟩
    let layers : List Layer :=
      [.override "convert.package" (.scalar (.text "p")), .optionalFile localSettings,
        .optionalFile "d.toml", .file "b.toml", .override "convert.package" (.scalar (.text "q")),
        .file "c"]
    let args : List Text := ["--config", "b.toml", "convert", "a.jsp", "--named-component"]
    let request : Request :=
      ⟨some "b.toml", .convert ⟨"a.jsp", none, none, none, true, false, none⟩⟩
    (∀ layer ∈ layers, layer.fits tree = true) ∧ Request.ofArguments args = .ok request ∧
    load tree layers = .ok ⟨"q", false, false, "info"⟩ ∧
    run tree args = (prepareTask tree ⟨"b", false, true, "warn"⟩ request.task).perform tree := by
  -- Overrides between files, one of them found by its extension and one not there.
  intro tree layers args request
  have parsed : Request.ofArguments args = .ok request := by rfl
  have facts : (∀ layer ∈ layers, layer.fits tree = true) ∧ locate? tree "b.toml" ≠ none ∧
      locate? tree "c" ≠ none ∧
      (valueFrom tree layers).toSettings = ⟨"q", false, false, "info"⟩ ∧
      (valueFrom tree request.layers).toSettings = ⟨"b", false, true, "warn"⟩ := by
    decide +kernel
  obtain ⟨fits, b_there, c_there, loads, works⟩ := facts
  obtain ⟨fails, rule, -, -, runs⟩ := settings_layered tree layers fits
  refine ⟨fits, parsed, ?_, ?_⟩
  · cases loaded : load tree layers with
    | error e =>
      obtain ⟨path, listed, nowhere⟩ := fails.1 ⟨e, loaded⟩
      have named : path = "b.toml" ∨ path = "c" := by simpa [layers] using listed
      rcases named with rfl | rfl
      · exact absurd nowhere b_there
      · exact absurd nowhere c_there
    | ok s =>
      rw [← loads]
      congr 1
      refine eq_of_get fun x => ?_
      rw [rule s loaded x, Values.get_toSettings, valueFrom]
  · have here : fileFits tree localSettings = true :=
      fits (.optionalFile localSettings) (.tail _ (.head _))
    have named : ∀ path, request.config = some path → fileFits tree path = true := by
      rintro path ⟨⟩
      exact fits (.file "b.toml") (.tail _ (.tail _ (.tail _ (.head _))))
    rcases runs args request parsed here named with ⟨path, ⟨⟩, nowhere, -⟩ | ⟨-, s, runs, rule⟩
    · exact absurd nowhere b_there
    · rw [runs, ← works]
      congr 2
      refine eq_of_get fun x => ?_
      rw [rule x, Values.get_toSettings, request.valueFrom_layers]

end JspEndpoint.CommandLine
