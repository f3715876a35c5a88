import RecordQuery.Proofs.Recognition

/-!
# Marks in bytes and in characters

The guard of a table row compares bytes: the segment is split after as many bytes as the mark has,
if there is a character boundary, and the prefix is compared with the mark. The parser behind the
guard compares characters. `Segment.marks_agree` states that they accept the same segments, and what
rest they leave.

* `Text.bytes` encodes a text in UTF-8. `Text.splitAtByte?` succeeds exactly at character boundaries
  (`Text.isSome_splitAtByte?`), because only the first byte of a character is no continuation byte
  (`Text.exists_bytes_of_char`).
* ASCII case is folded byte by byte, and no byte of another character is changed
  (`Text.map_smallByte_bytes`). The encoding is injective (`Text.bytes_inj`).

So the guard on bytes is the guard on characters (`Segment.beginsWith_eq_bytesBeginWith`), which
accepts exactly what the parser does (`Segment.beginsWith_eq_isSome`).
-/

namespace RecordQuery

namespace Text

/-! ### Bytes -/

/-- The UTF-8 encoding of a text. -/
def bytes (t : Text) : List UInt8 := t.flatMap String.utf8EncodeChar

theorem bytes_cons (c : Char) (t : Text) : bytes (c :: t) = String.utf8EncodeChar c ++ bytes t :=
  List.flatMap_cons

theorem bytes_append (s t : Text) : bytes (s ++ t) = bytes s ++ bytes t := List.flatMap_append

theorem length_bytes (t : Text) : t.bytes.length = byteSize t := by
  induction t with
  | nil => rfl
  | cons c t ih =>
    rw [bytes_cons, List.length_append, String.length_utf8EncodeChar, ih, byteSize_cons]

/-- The encoding is injective. -/
theorem bytes_inj {s t : Text} : s.bytes = t.bytes ↔ s = t := by
  constructor
  · intro h
    have hstrings : (String.ofList s).toByteArray = (String.ofList t).toByteArray := by
      rw [String.toByteArray_ofList, String.toByteArray_ofList, List.utf8Encode, List.utf8Encode]
      exact congrArg List.toByteArray h
    exact String.ofList_injective (String.toByteArray_inj.1 hstrings)
  · rintro rfl
    rfl

/-! ### Character boundaries -/

/-- Whether the byte is a continuation byte. -/
def continuesChar (b : UInt8) : Bool := 0x80 ≤ b && b < 0xC0

/-- Whether the bytes have a character boundary after the given number of them: at the start, at the
end, or before a byte that is no continuation byte. -/
def isCut (n : Nat) (bs : List UInt8) : Bool :=
  n == 0 ||
    match bs[n]? with
    | some b => !continuesChar b
    | none => n == bs.length

theorem continuesChar_iff (b : UInt8) : continuesChar b = true ↔ 128 ≤ b.toNat ∧ b.toNat < 192 := by
  rw [continuesChar, Bool.and_eq_true, decide_eq_true_eq, decide_eq_true_eq,
    UInt8.le_iff_toNat_le, UInt8.lt_iff_toNat_lt]
  rfl

/-- Continuation bytes hold six bits each. -/
theorem continuesChar_ofNat (n : Nat) : continuesChar (UInt8.ofNat (n % 0x40 + 0x80)) = true := by
  rw [continuesChar_iff, UInt8.toNat_ofNat']
  omega

/-- **Only the first byte of a character is no continuation byte.** Outside ASCII it is at least
128, too. -/
theorem exists_bytes_of_char (c : Char) :
    ∃ b others, String.utf8EncodeChar c = b :: others ∧ continuesChar b = false ∧
      (∀ e ∈ others, continuesChar e = true) ∧ (128 ≤ c.toNat → 128 ≤ b.toNat) := by
  have hfirst : ∀ n : Nat, n < 256 → n < 128 ∨ 192 ≤ n →
      continuesChar (UInt8.ofNat n) = false := by
    intro n hn hrange
    rw [Bool.eq_false_iff, ne_eq, continuesChar_iff, UInt8.toNat_ofNat_of_lt' hn]
    omega
  have hwide : ∀ n : Nat, n < 256 → 192 ≤ n → 128 ≤ (UInt8.ofNat n).toNat := by
    intro n hn hrange
    rw [UInt8.toNat_ofNat_of_lt' hn]
    omega
  have hval : c.val.toNat = c.toNat := rfl
  have hrest : ∀ n : Nat, ∀ e ∈ [UInt8.ofNat (n % 0x40 + 0x80)], continuesChar e = true := by
    intro n e he
    rw [List.mem_singleton.1 he]
    exact continuesChar_ofNat n
  -- by the number of bytes
  rw [String.utf8EncodeChar]
  split
  · next hle => exact ⟨_, [], rfl, hfirst _ (by omega) (by omega), by simp, fun h => by omega⟩
  · split
    · exact ⟨_, _, rfl, hfirst _ (by omega) (by omega), hrest _,
        fun _ => hwide _ (by omega) (by omega)⟩
    · split
      · refine ⟨_, _, rfl, hfirst _ (by omega) (by omega), ?_,
          fun _ => hwide _ (by omega) (by omega)⟩
        exact List.forall_mem_cons.2 ⟨continuesChar_ofNat _, hrest _⟩
      · refine ⟨_, _, rfl, hfirst _ (by omega) (by omega), ?_,
          fun _ => hwide _ (by omega) (by omega)⟩
        exact List.forall_mem_cons.2 ⟨continuesChar_ofNat _,
          List.forall_mem_cons.2 ⟨continuesChar_ofNat _, hrest _⟩⟩

/-- The start of the bytes of a text is a character boundary after any prefix. -/
theorem isCut_length_append (first : List UInt8) (t : Text) :
    isCut first.length (first ++ t.bytes) = true := by
  rw [isCut, List.getElem?_append_right (Nat.le_refl _), Nat.sub_self, Bool.or_eq_true]
  right
  cases t with
  | nil => simp [bytes]
  | cons c t =>
    obtain ⟨b, others, hbytes, hb, -, -⟩ := exists_bytes_of_char c
    rw [bytes_cons, hbytes]
    simp [hb]

/-- A prefix does not change the character boundaries of a text. -/
theorem isCut_append (first : List UInt8) (t : Text) (n : Nat) :
    isCut (first.length + n) (first ++ t.bytes) = isCut n t.bytes := by
  cases n with
  | zero => exact isCut_length_append first t
  | succ n =>
    have hzero : (first.length + (n + 1) == 0) = false := by simp
    rw [isCut, isCut, List.getElem?_append_right (Nat.le_add_right ..), Nat.add_sub_cancel_left,
      hzero]
    cases t.bytes[n + 1]? with
    | none => simp
    | some b => rfl

/-- There is no character boundary inside a character. -/
theorem isCut_of_lt {c : Char} {t : Text} {n : Nat} (h : n + 1 < c.utf8Size) :
    isCut (n + 1) (bytes (c :: t)) = false := by
  obtain ⟨b, others, hbytes, -, hothers, -⟩ := exists_bytes_of_char c
  have hlength : others.length + 1 = c.utf8Size := by
    rw [← String.length_utf8EncodeChar c, hbytes, List.length_cons]
  have hn : n < others.length := by omega
  rw [isCut, bytes_cons, hbytes, List.cons_append, List.getElem?_cons_succ,
    List.getElem?_append_left hn, List.getElem?_eq_getElem hn]
  simp [hothers _ (List.getElem_mem hn)]

/-- **`splitAtByte?` succeeds exactly at character boundaries.** -/
theorem isSome_splitAtByte? (n : Nat) (t : Text) :
    (splitAtByte? n t).isSome = isCut n t.bytes := by
  induction t generalizing n with
  | nil => cases n <;> rfl
  | cons c t ih =>
    cases n with
    | zero => rfl
    | succ n =>
      rw [splitAtByte?]
      split
      · next hle =>
        -- the boundary lies behind the character
        have hcut := isCut_append (String.utf8EncodeChar c) t (n + 1 - c.utf8Size)
        rw [String.length_utf8EncodeChar, Nat.add_sub_cancel' hle, ← bytes_cons] at hcut
        rw [Option.isSome_map, ih, hcut]
      · next hlt => rw [isCut_of_lt (Nat.lt_of_not_le hlt), Option.isSome_none]

/-! ### Lower case in bytes -/

/-- Lower-cases the byte of a letter `A` to `Z`. -/
def smallByte (b : UInt8) : UInt8 := if 0x41 ≤ b ∧ b ≤ 0x5A then b + 0x20 else b

theorem smallByte_of_le {b : UInt8} (h : 128 ≤ b.toNat) : smallByte b = b := by
  refine if_neg ?_
  rintro ⟨-, hle⟩
  rw [UInt8.le_iff_toNat_le] at hle
  exact absurd (Nat.le_trans h hle) (by decide)

/-- The bytes of a lower-cased character are the lower-cased bytes. -/
theorem map_smallByte_char (c : Char) :
    (String.utf8EncodeChar c).map smallByte = String.utf8EncodeChar c.toLower := by
  by_cases h : c.toNat < 128
  · exact forall_ascii
      (P := fun c => (String.utf8EncodeChar c).map smallByte = String.utf8EncodeChar c.toLower)
      (by decide +kernel) h
  · obtain ⟨b, others, hbytes, -, hothers, hb⟩ := exists_bytes_of_char c
    have hwide : ∀ e ∈ b :: others, smallByte e = e := by
      refine List.forall_mem_cons.2 ⟨smallByte_of_le (hb (Nat.le_of_not_lt h)), fun e he => ?_⟩
      exact smallByte_of_le ((continuesChar_iff e).1 (hothers e he)).1
    rw [toLower_of_not_ascii h, hbytes]
    exact (List.map_congr_left hwide).trans (List.map_id' _)

theorem map_smallByte_bytes (t : Text) : t.bytes.map smallByte = bytes (t.map Char.toLower) := by
  induction t with
  | nil => rfl
  | cons c t ih =>
    rw [bytes_cons, List.map_append, map_smallByte_char, ih, List.map_cons, bytes_cons]

/-- **`sameLetters` compares lower-cased bytes.** -/
theorem sameLetters_iff_bytes (s t : Text) :
    sameLetters s t = true ↔ s.bytes.map smallByte = t.bytes.map smallByte := by
  rw [sameLetters_iff, map_smallByte_bytes, map_smallByte_bytes, bytes_inj]

/-- Whether bytes begin with a mark without regard to ASCII case: they have a character boundary
after as many bytes as the mark has, and the bytes before it agree with the mark. -/
def bytesBeginWith (mark bs : List UInt8) : Bool :=
  isCut mark.length bs && (bs.take mark.length).map smallByte == mark.map smallByte

/-! ### The rest after a mark -/

/-- A case-sensitive mark is stripped exactly from the texts that begin with it. -/
theorem strip?_beq_eq_some_iff {mark t rest : Text} :
    strip? (· == ·) mark t = some rest ↔ mark ++ rest = t := by
  induction mark generalizing t with
  | nil => rw [strip?, Option.some_inj, List.nil_append, eq_comm]
  | cons c mark ih =>
    cases t with
    | nil => simp [strip?]
    | cons d t =>
      rw [strip?, List.cons_append, List.cons.injEq, ← ih]
      by_cases hcd : c = d
      · simp [hcd]
      · simp [hcd]

/-- After a prefix with the size of the mark, the rest is the text without as many bytes. -/
theorem bytes_rest {mark head rest : Text} (hsize : byteSize head = byteSize mark) :
    bytes rest = (bytes (head ++ rest)).drop mark.bytes.length := by
  rw [bytes_append, length_bytes, ← hsize, ← length_bytes, List.drop_left]

end Text

namespace Segment

open RecordQuery.Parser

/-- **The guard compares bytes.** -/
theorem beginsWith_eq_bytesBeginWith (mark t : Text) :
    beginsWith mark t = Text.bytesBeginWith mark.bytes t.bytes := by
  -- `beginsWith` cuts the text by bytes, which succeeds exactly at character boundaries
  have hcuts := Text.isSome_splitAtByte? (Text.byteSize mark) t
  rw [beginsWith, Text.bytesBeginWith, Text.length_bytes, ← hcuts]
  split
  · next head rest hcut =>
    obtain ⟨rfl, hsize⟩ := Text.append_of_splitAtByte? hcut
    have htake : (Text.bytes (head ++ rest)).take (Text.byteSize mark) = head.bytes := by
      rw [Text.bytes_append, ← hsize, ← Text.length_bytes, List.take_left]
    rw [hcut, htake, Bool.eq_iff_iff, Text.sameLetters_iff_bytes]
    simp
  · next hcut =>
    rw [hcut]
    rfl

/-- **Guards and parsers of a mark agree** on a text. -/
structure MarkAgrees (mark t : Text) : Prop where
  /-- The guard compares the bytes of the text with those of the mark. -/
  guard_bytes : beginsWith mark t = Text.bytesBeginWith mark.bytes t.bytes
  /-- The guard accepts the text exactly if the parser of the mark does. -/
  guard_iff : ∀ {α : Type} (value : α),
    beginsWith mark t = true ↔ (literalIgnoringCase mark value t).isSome = true
  /-- The guarded parser returns its value, and drops as many bytes as the mark has. -/
  guarded_rest : ∀ {α : Type} (value : α) parsed,
    literalIgnoringCase mark value t = some parsed →
      parsed.value = value ∧ parsed.rest.bytes = t.bytes.drop mark.bytes.length
  /-- The case-sensitive parser accepts exactly the texts that begin with the mark. -/
  literal_iff : ∀ {α : Type} (value : α), (literal mark value t).isSome = true ↔ mark <+: t
  /-- It drops as many bytes as the mark has, too. -/
  literal_rest : ∀ {α : Type} (value : α) parsed, literal mark value t = some parsed →
    parsed.value = value ∧ parsed.rest.bytes = t.bytes.drop mark.bytes.length

/-- **Marks agree in bytes and in characters**, for all marks and texts: also for the empty mark,
for texts shorter than the mark, and where no character boundary is at its size. -/
theorem marks_agree (mark t : Text) : MarkAgrees mark t where
  guard_bytes := beginsWith_eq_bytesBeginWith mark t
  guard_iff value := by
    rw [beginsWith_eq_isSome, literalIgnoringCase_apply, Option.isSome_map]
  guarded_rest value parsed h := by
    rw [literalIgnoringCase_apply] at h
    obtain ⟨rest, hrest, rfl⟩ := Option.map_eq_some_iff.1 h
    obtain ⟨head, rfl, hsame⟩ := Text.strip?_sameLetter_eq_some_iff.1 hrest
    exact ⟨rfl, Text.bytes_rest (Text.byteSize_of_sameLetters hsame).symm⟩
  literal_iff value := by
    rw [literal, literalBy_apply, Option.isSome_map, Option.isSome_iff_exists]
    exact exists_congr fun rest => Text.strip?_beq_eq_some_iff
  literal_rest value parsed h := by
    rw [literal, literalBy_apply] at h
    obtain ⟨rest, hrest, rfl⟩ := Option.map_eq_some_iff.1 h
    obtain rfl := Text.strip?_beq_eq_some_iff.1 hrest
    exact ⟨rfl, Text.bytes_rest rfl⟩

/-- Two bytes would end inside of the second character, which has three. -/
example :
    Text.isCut 2 (Text.bytes "a€".toList) = false ∧ beginsWith "aB".toList "a€".toList = false ∧
      beginsWith "€B".toList "€b-1".toList = true := by
  decide +kernel

end Segment

end RecordQuery
