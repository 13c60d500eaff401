import Mathlib

/-! The order of texts. Texts are compared character by character; that is the order of their UTF-8
bytes as well (`bytes_lt_bytes_iff`). Two texts that part at some character stay ordered whatever
follows. -/
namespace EdgeCatalog.Text

variable {α : Type} [LT α]

/-! ## Lists that part -/

/-- After a common beginning, the first list has the smaller entry. -/
def PartsBelow (a b : List α) : Prop :=
  ∃ (shared : List α) (x y : α) (restA restB : List α),
    a = shared ++ x :: restA ∧ b = shared ++ y :: restB ∧ x < y

theorem PartsBelow.cons {a b : List α} (h : PartsBelow a b) (c : α) :
    PartsBelow (c :: a) (c :: b) := by
  obtain ⟨shared, x, y, restA, restB, rfl, rfl, hxy⟩ := h
  exact ⟨c :: shared, x, y, restA, restB, rfl, rfl, hxy⟩

/-- What follows the place where two lists part does not matter. -/
theorem PartsBelow.append_lt_append {a b : List α} (h : PartsBelow a b) (s t : List α) :
    a ++ s < b ++ t := by
  obtain ⟨shared, x, y, restA, restB, rfl, rfl, hxy⟩ := h
  rw [List.append_assoc, List.append_assoc]
  exact List.append_left_lt (List.Lex.rel hxy)

/-- A smaller list is a beginning of the larger one, or parts from it. -/
theorem partsBelow_of_lt {a b : List α} (h : a < b) (hp : ¬a <+: b) : PartsBelow a b := by
  induction h with
  | nil => exact absurd List.nil_prefix hp
  | rel hxy => exact ⟨[], _, _, _, _, rfl, rfl, hxy⟩
  | cons _ ih => exact (ih fun hpre => hp (List.cons_prefix_cons.mpr ⟨rfl, hpre⟩)).cons _

theorem lt_append_of_lt {a b : List α} (h : a < b) (t : List α) : a < b ++ t := by
  induction h with
  | nil => exact List.Lex.nil
  | rel hxy => exact List.Lex.rel hxy
  | cons _ ih => exact List.Lex.cons ih

/-- A smaller list stays smaller when nothing is added where the larger one goes on. -/
theorem append_lt_append_of_lt {a b : List α} (h : a < b) {s : List α} (hs : a <+: b → s = [])
    (t : List α) : a ++ s < b ++ t := by
  by_cases hp : a <+: b
  · rw [hs hp, List.append_nil]
    exact lt_append_of_lt h t
  · exact (partsBelow_of_lt h hp).append_lt_append s t

/-! ## The order of the bytes -/

/-- The UTF-8 bytes of a text. -/
def bytes (s : String) : List UInt8 :=
  s.toUTF8.data.toList

theorem bytes_eq_flatMap (s : String) : bytes s = s.toList.flatMap String.utf8EncodeChar := by
  rw [bytes, String.toUTF8_eq_toByteArray, ← String.utf8Encode_toList, List.utf8Encode,
    List.toList_data_toByteArray]

/-- Two lists of bytes part at the first byte, or else behind it. -/
theorem partsBelow_ofNat_cons {x y : Nat} {a b : List UInt8} (hx : x < 256) (hy : y < 256)
    (hxy : x ≤ y) (hrest : x = y → PartsBelow a b) :
    PartsBelow (UInt8.ofNat x :: a) (UInt8.ofNat y :: b) := by
  rcases Nat.lt_or_eq_of_le hxy with hlt | rfl
  · exact ⟨[], _, _, _, _, rfl, rfl, (UInt8.ofNat_lt_iff_lt hx hy).mpr hlt⟩
  · exact (hrest rfl).cons _

/-- The encodings of two characters part, and the smaller character has the smaller byte there. -/
theorem partsBelow_utf8EncodeChar {c d : Char} (h : c < d) :
    PartsBelow (String.utf8EncodeChar c) (String.utf8EncodeChar d) := by
  have hcd : c.val.toNat < d.val.toNat := h
  have hd : d.val.toNat < 0x110000 := by
    have := d.valid
    simp only [UInt32.isValidChar, Nat.isValidChar] at this
    omega
  unfold String.utf8EncodeChar
  dsimp only
  generalize c.val.toNat = v at *
  generalize d.val.toNat = w at *
  have first {x y : Nat} {a b : List UInt8} (hxy : x < y) (hy : y < 256) :
      PartsBelow (UInt8.ofNat x :: a) (UInt8.ofNat y :: b) :=
    partsBelow_ofNat_cons (by omega) hy (by omega) (by omega)
  split_ifs
  -- one byte against one, two, three and four
  · exact first hcd (by omega)
  · exact first (by omega) (by omega)
  · exact first (by omega) (by omega)
  · exact first (by omega) (by omega)
  -- two bytes
  · omega
  · refine partsBelow_ofNat_cons (by omega) (by omega) (by omega) fun h1 => ?_
    exact first (by omega) (by omega)
  · exact first (by omega) (by omega)
  · exact first (by omega) (by omega)
  -- three bytes
  · omega
  · omega
  · refine partsBelow_ofNat_cons (by omega) (by omega) (by omega) fun h1 => ?_
    refine partsBelow_ofNat_cons (by omega) (by omega) (by omega) fun h2 => ?_
    exact first (by omega) (by omega)
  · exact first (by omega) (by omega)
  -- four bytes
  · omega
  · omega
  · omega
  · refine partsBelow_ofNat_cons (by omega) (by omega) (by omega) fun h1 => ?_
    refine partsBelow_ofNat_cons (by omega) (by omega) (by omega) fun h2 => ?_
    refine partsBelow_ofNat_cons (by omega) (by omega) (by omega) fun h3 => ?_
    exact first (by omega) (by omega)

theorem flatMap_utf8EncodeChar_lt {a b : List Char} (h : a < b) :
    a.flatMap String.utf8EncodeChar < b.flatMap String.utf8EncodeChar := by
  induction h with
  | @nil c rest =>
    rw [List.flatMap_nil, List.flatMap_cons]
    cases hc : String.utf8EncodeChar c with
    | nil => exact absurd hc String.utf8EncodeChar_ne_nil
    | cons x others => exact List.Lex.nil
  | rel hcd =>
    rw [List.flatMap_cons, List.flatMap_cons]
    exact (partsBelow_utf8EncodeChar hcd).append_lt_append _ _
  | cons _ ih =>
    rw [List.flatMap_cons, List.flatMap_cons]
    exact List.append_left_lt ih

/-- Texts are in the order of their UTF-8 bytes. -/
theorem bytes_lt_bytes_iff {a b : String} : bytes a < bytes b ↔ a < b := by
  rw [bytes_eq_flatMap, bytes_eq_flatMap]
  constructor
  · intro h
    rcases lt_trichotomy a b with hab | rfl | hba
    · exact hab
    · exact absurd h (List.lt_irrefl _)
    · exact absurd (flatMap_utf8EncodeChar_lt hba) (List.lt_asymm h)
  · intro h
    exact flatMap_utf8EncodeChar_lt h

theorem bytes_le_bytes_iff {a b : String} : bytes a ≤ bytes b ↔ a ≤ b := by
  rw [← List.not_lt, ← not_lt, bytes_lt_bytes_iff]

end EdgeCatalog.Text
