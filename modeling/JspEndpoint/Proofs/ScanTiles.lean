import JspEndpoint.Proofs.ScanEntries
import Mathlib.Data.List.Basic

/-!
Scanning tiles the template. Every entry starts where the one before it ends, so no byte is lost and
none is scanned twice, and every cut falls between two characters. This holds of every text, also of
one in which constructs are not closed.
-/

namespace JspEndpoint.Text

/-- The UTF-8 encoding. -/
def bytes (t : Text) : List UInt8 := t.flatMap String.utf8EncodeChar

@[simp] theorem bytes_cons (c : Char) (t : Text) :
    bytes (c :: t) = String.utf8EncodeChar c ++ bytes t := List.flatMap_cons

@[simp] theorem bytes_append (s t : Text) : bytes (s ++ t) = bytes s ++ bytes t :=
  List.flatMap_append

@[simp] theorem length_bytes (t : Text) : (bytes t).length = byteLength t := by
  induction t with
  | nil => rfl
  | cons c t ih =>
    have rest : (t.flatMap String.utf8EncodeChar).length = byteLength t := ih
    simp [bytes, rest]

/-- Offsets between two characters, and those of the two ends. -/
def Boundary (t : Text) (offset : Nat) : Prop :=
  ∃ front back, t = front ++ back ∧ front.byteLength = offset

theorem bytes_between (front middle back : Text) :
    (bytes (front ++ middle ++ back)).extract (byteLength front)
      (byteLength front + byteLength middle) = bytes middle := by
  have dropped : (bytes (front ++ middle ++ back)).drop (byteLength front) =
      bytes middle ++ bytes back := by
    rw [List.append_assoc, bytes_append, ← length_bytes, List.drop_left, bytes_append]
  rw [List.extract_eq_take_drop, dropped, Nat.add_sub_cancel_left, ← length_bytes, List.take_left]

end JspEndpoint.Text

namespace JspEndpoint.Template

/-- The entries cover the offsets from one to another, each offset once, and none of them is empty. -/
def Tiles : Nat → List Placed → Nat → Prop
  | here, [], stop => here = stop
  | here, p :: rest, stop => p.start = here ∧ p.start < p.stop ∧ Tiles p.stop rest stop

theorem Tiles.length_le {here stop : Nat} {entries : List Placed} (h : Tiles here entries stop) :
    here + entries.length ≤ stop := by
  induction entries generalizing here with
  | nil => exact Nat.le_of_eq h
  | cons p rest ih =>
    obtain ⟨start, wide, later⟩ := h
    have bound := ih later
    simp only [List.length_cons]
    omega

theorem tiles_place (start : Nat) {lexemes : List Lexeme} (h : ∀ l ∈ lexemes, l.text ≠ []) :
    Tiles start (place start lexemes)
      (start + Text.byteLength (lexemes.flatMap Lexeme.text)) := by
  induction lexemes generalizing start with
  | nil => rfl
  | cons l rest ih =>
    obtain ⟨first, later⟩ := List.forall_mem_cons.1 h
    have wide := Text.byteLength_pos first
    have tail := ih (start + l.text.byteLength) later
    rw [List.flatMap_cons, Text.byteLength_append, ← Nat.add_assoc]
    exact ⟨rfl, Nat.lt_add_of_pos_right wide, tail⟩

theorem text_ne_nil_of_mem_scan {source : Text} {l : Lexeme} (h : l ∈ scan source) :
    l.text ≠ [] := by
  fun_induction scan source with
  | case1 => cases h
  | case2 c t ih =>
    rcases List.mem_cons.1 h with rfl | later
    · exact Lexeme.next_text_ne_nil c t
    · exact ih later

theorem tiles_scan (source : Text) : Tiles 0 (place 0 (scan source)) source.byteLength := by
  have tiles := tiles_place 0 fun l (h : l ∈ scan source) => text_ne_nil_of_mem_scan h
  rwa [scan_text, Nat.zero_add] at tiles

theorem split_of_mem_place_scan {source : Text} {p : Placed} (h : p ∈ place 0 (scan source)) :
    ∃ front back, source = front ++ p.lexeme.text ++ back ∧ p.start = front.byteLength ∧
      p.stop = (front ++ p.lexeme.text).byteLength := by
  obtain ⟨front, c, t, same, start, lexeme⟩ := exists_of_mem_place_scan h
  rw [Nat.zero_add] at start
  refine ⟨front, (Lexeme.next c t).2, ?_, start, ?_⟩
  · rw [lexeme, List.append_assoc, Lexeme.next_text, same]
  · rw [Placed.stop, start, Text.byteLength_append]

theorem flatMap_place_text (start : Nat) (lexemes : List Lexeme) :
    ((place start lexemes).flatMap fun p => p.lexeme.text) = lexemes.flatMap Lexeme.text := by
  induction lexemes generalizing start with
  | nil => rfl
  | cons l rest ih => rw [place, List.flatMap_cons, ih, List.flatMap_cons]

theorem bytes_of_mem_place_scan {source : Text} {p : Placed} (h : p ∈ place 0 (scan source)) :
    source.bytes.extract p.start p.stop = p.lexeme.text.bytes := by
  obtain ⟨front, back, same, start, stop⟩ := split_of_mem_place_scan h
  rw [start, stop, same, Text.byteLength_append, Text.bytes_between]

theorem boundaries_of_mem_place_scan {source : Text} {p : Placed}
    (h : p ∈ place 0 (scan source)) : source.Boundary p.start ∧ source.Boundary p.stop := by
  obtain ⟨front, back, same, start, stop⟩ := split_of_mem_place_scan h
  have after : source = front ++ (p.lexeme.text ++ back) := by rw [same, List.append_assoc]
  exact ⟨⟨front, _, after, start.symm⟩, ⟨_, back, same, stop.symm⟩⟩

theorem place_scan_eq_nil {source : Text} : place 0 (scan source) = [] ↔ source = [] := by
  constructor
  · intro none_found
    have whole := scan_text source
    rw [← flatMap_place_text 0, none_found] at whole
    exact whole.symm
  · rintro rfl
    rw [scan, place]

/-- The entries tile the template from its first byte to its last. Each is cut at characters, and its
text is what the template holds there. -/
theorem scan_tiles (source : Text) :
    let entries := place 0 (scan source)
    Tiles 0 entries source.byteLength ∧
      (entries = [] ↔ source = []) ∧
      (∀ p ∈ entries, source.Boundary p.start ∧ source.Boundary p.stop ∧
        source.bytes.extract p.start p.stop = p.lexeme.text.bytes) ∧
      (entries.flatMap fun p => source.bytes.extract p.start p.stop) = source.bytes ∧
      entries.length ≤ source.byteLength := by
  intro entries
  have tiles : Tiles 0 entries source.byteLength := tiles_scan source
  have bound := tiles.length_le
  have joined : (entries.flatMap fun p => p.lexeme.text.bytes) = source.bytes := by
    have texts : (entries.flatMap fun p => p.lexeme.text.bytes) =
        Text.bytes (entries.flatMap fun p => p.lexeme.text) := List.flatMap_assoc.symm
    rw [texts, flatMap_place_text, scan_text]
  refine ⟨tiles, place_scan_eq_nil, fun p hp => ?_, ?_, by omega⟩
  · obtain ⟨first, last⟩ := boundaries_of_mem_place_scan hp
    exact ⟨first, last, bytes_of_mem_place_scan hp⟩
  · rw [List.flatMap_congr fun p hp => bytes_of_mem_place_scan hp, joined]

example : place 0 (scan "é<%<") =
    [⟨0, .markup "é"⟩, ⟨2, .unclosed .scriptlet⟩, ⟨4, .angle ['<']⟩] := by
  decide +kernel

end JspEndpoint.Template
