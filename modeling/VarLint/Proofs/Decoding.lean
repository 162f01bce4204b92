import Mathlib.Data.List.Infix
import VarLint.Text.Blank

/-!
# Reading texts in a row

A byte string is read rune by rune, and what one rune is depends on at most three bytes behind its
first. So texts in a row are read one after another wherever the second does not start in the middle
of a sequence:

* `first_cases`: what the first rune of a text can be.
* `ofRunes_runes`: reading loses no byte.
* `runes_append`: a text before a byte that continues nothing is read as it is read alone.
* `runes_encode_append`: a character that has been written is read again, whatever follows.
* `eq_ofChar_or_malformed`: every rune of a text is a written character or one malformed byte, so
  `ofChars_chars` gives well-formed texts back.
* `ofChars_infix_iff`, `ofChars_prefix_iff`, `ofChars_suffix_iff`: words stand in a text where they
  stand among its characters.
-/

namespace VarLint

namespace Rune

/-- The number of bytes that follow the lead byte of a sequence. -/
def tailLength (lead : UInt8) : Nat := if lead < 0xE0 then 1 else if lead < 0xF0 then 2 else 3

/-! ## Sequences -/

theorem sequence?_of_mem {lead b : UInt8} {tail : Bytes} (hb : b ∈ tail)
    (h : continuation? b = none) : sequence? lead tail = none := by
  match tail with
  | [] => rfl
  | [x] =>
    obtain rfl := List.mem_singleton.1 hb
    simp [sequence?, h]
  | [x, y] =>
    simp only [List.mem_cons, List.not_mem_nil, or_false] at hb
    rcases hb with rfl | rfl
    · simp [sequence?, h]
    · cases hx : continuation? x <;> simp [sequence?, h, hx]
  | [x, y, z] =>
    simp only [List.mem_cons, List.not_mem_nil, or_false] at hb
    rcases hb with rfl | rfl | rfl
    · simp [sequence?, h]
    · cases hx : continuation? x <;> simp [sequence?, h, hx]
    · cases hx : continuation? x <;> cases hy : continuation? y <;> simp [sequence?, h, hx, hy]
  | _ :: _ :: _ :: _ :: _ => rfl

theorem sequence?_of_short {lead : UInt8} {tail : Bytes} (h : tail.length < tailLength lead) :
    sequence? lead tail = none := by
  unfold tailLength at h
  match tail with
  | [] => rfl
  | [x] =>
    have hlead : ¬lead ≤ 0xDF := by
      intro hle
      rw [if_pos (UInt8.lt_of_le_of_lt hle (by decide))] at h
      simp at h
    cases hx : continuation? x <;> simp [sequence?, hx, hlead]
  | [x, y] =>
    have hlead : ¬lead ≤ 0xEF := by
      intro hle
      split at h
      · simp at h
      · rw [if_pos (UInt8.lt_of_le_of_lt hle (by decide))] at h
        simp at h
    cases hx : continuation? x <;> cases hy : continuation? y <;> simp [sequence?, hx, hy, hlead]
  | x :: y :: z :: rest =>
    exfalso
    simp only [List.length_cons] at h
    split at h
    · omega
    · split at h <;> omega

/-! ## The first rune -/

theorem first_ascii {b : UInt8} (hb : b < 0x80) (s : Bytes) :
    first b s = ⟨Char.ofNat b.toNat, [b]⟩ := by
  simp [first, hb]

theorem first_lead {b : UInt8} (hb : 0xC2 ≤ b) (s : Bytes) :
    first b s = match sequence? b (s.take (tailLength b)) with
      | some (c, _) => ⟨c, b :: s.take (tailLength b)⟩
      | none => malformed b := by
  have hascii : ¬b < 0x80 := UInt8.not_lt.2 (UInt8.le_trans (by decide) hb)
  unfold first
  rw [if_neg hascii, if_neg (UInt8.not_lt.2 hb)]
  rfl

theorem first_sequence {b : UInt8} {tail : Bytes} {c : Char} {n : Nat} (hb : 0xC2 ≤ b)
    (hlen : tail.length = tailLength b) (hseq : sequence? b tail = some (c, n)) (t : Bytes) :
    first b (tail ++ t) = ⟨c, b :: tail⟩ := by
  have htake : (tail ++ t).take (tailLength b) = tail := by
    rw [← hlen]
    exact List.take_left
  rw [first_lead hb, htake, hseq]

/-- **What the first rune of a text can be**: an ASCII character, a sequence, a malformed byte. -/
theorem first_cases (b : UInt8) (s : Bytes) :
    (b < 0x80 ∧ first b s = ⟨Char.ofNat b.toNat, [b]⟩) ∨
      (∃ tail rest c n, s = tail ++ rest ∧ 0xC2 ≤ b ∧ tail.length = tailLength b ∧
        sequence? b tail = some (c, n) ∧ first b s = ⟨c, b :: tail⟩) ∨
      first b s = malformed b := by
  by_cases hb : b < 0x80
  · exact .inl ⟨hb, first_ascii hb s⟩
  · by_cases hb' : b < 0xC2
    · exact .inr (.inr (by simp [first, hb, hb']))
    · have hlead : 0xC2 ≤ b := UInt8.not_lt.1 hb'
      cases hseq : sequence? b (s.take (tailLength b)) with
      | none => exact .inr (.inr (by rw [first_lead hlead, hseq]))
      | some found =>
        have hlen : tailLength b ≤ s.length := by
          by_contra hlen
          rw [sequence?_of_short (by rw [List.length_take]; omega)] at hseq
          cases hseq
        refine .inr (.inl ⟨s.take (tailLength b), s.drop (tailLength b), found.1, found.2,
          (List.take_append_drop _ s).symm, hlead, by simp [hlen], hseq, ?_⟩)
        rw [first_lead hlead, hseq]

theorem first_append (b : UInt8) (s : Bytes) {t : Bytes}
    (ht : ∀ c ∈ t.head?, continuation? c = none) : first b (s ++ t) = first b s := by
  by_cases hb : 0xC2 ≤ b
  · rw [first_lead hb, first_lead hb]
    cases t with
    | nil => rw [List.append_nil]
    | cons c t =>
      by_cases hlen : tailLength b ≤ s.length
      · rw [List.take_append_of_le_length hlen]
      · -- the sequence is cut short, by the end or by a byte that cannot continue it
        have hmem : c ∈ (s ++ c :: t).take (tailLength b) := by
          obtain ⟨n, hn⟩ : ∃ n, tailLength b - s.length = n + 1 :=
            ⟨tailLength b - s.length - 1, by omega⟩
          rw [List.take_append, hn]
          simp
        rw [sequence?_of_mem hmem (ht c rfl),
          sequence?_of_short (by rw [List.length_take]; omega)]
  · have hlow : b < 0xC2 := UInt8.not_le.1 hb
    unfold first
    simp [hlow]

end Rune

/-! ## Texts -/

namespace Bytes

@[simp] theorem runes_nil : runes [] = [] := rfl

@[simp] theorem ofRunes_nil : ofRunes [] = [] := rfl

@[simp] theorem ofRunes_cons (r : Rune) (rs : List Rune) :
    ofRunes (r :: rs) = r.bytes ++ ofRunes rs :=
  rfl

@[simp] theorem ofRunes_append (rs rs' : List Rune) :
    ofRunes (rs ++ rs') = ofRunes rs ++ ofRunes rs' := by
  simp [ofRunes]

theorem runes_go (skip : Nat) (s : Bytes) : runes.go skip s = runes (s.drop skip) := by
  induction skip generalizing s with
  | zero => rfl
  | succ n ih =>
    cases s with
    | nil => rfl
    | cons b s => simpa [runes.go] using ih s

theorem runes_cons (b : UInt8) (s : Bytes) :
    runes (b :: s) = Rune.first b s :: runes (s.drop ((Rune.first b s).bytes.length - 1)) := by
  rw [← runes_go]
  rfl

/-- The bytes of the first rune, and what is read behind them. -/
theorem exists_runes_cons (b : UInt8) (s : Bytes) : ∃ tail rest, s = tail ++ rest ∧
    (Rune.first b s).bytes = b :: tail ∧ runes (b :: s) = Rune.first b s :: runes rest := by
  rw [runes_cons]
  rcases Rune.first_cases b s with ⟨-, h⟩ | ⟨tail, rest, c, n, rfl, -, -, -, h⟩ | h
  · exact ⟨[], s, rfl, by rw [h], by rw [h]; rfl⟩
  · refine ⟨tail, rest, rfl, by rw [h], ?_⟩
    rw [h]
    simp
  · exact ⟨[], s, rfl, by rw [h]; rfl, by rw [h]; rfl⟩

/-- **Reading loses nothing**: the bytes of the runes of a text are the text. -/
@[simp] theorem ofRunes_runes (s : Bytes) : ofRunes (runes s) = s := by
  induction hn : s.length using Nat.strongRecOn generalizing s with
  | _ n ih =>
    cases s with
    | nil => rfl
    | cons b s =>
      obtain ⟨tail, rest, rfl, hbytes, hrunes⟩ := exists_runes_cons b s
      rw [hrunes, ofRunes_cons, hbytes, ih rest.length (by simp at hn; omega) rest rfl]
      rfl

/-- **A text before a byte that continues nothing** is read as it is read alone. -/
theorem runes_append (s : Bytes) {t : Bytes} (ht : ∀ c ∈ t.head?, Rune.continuation? c = none) :
    runes (s ++ t) = runes s ++ runes t := by
  induction hn : s.length using Nat.strongRecOn generalizing s with
  | _ n ih =>
    cases s with
    | nil => rfl
    | cons b s =>
      have hlen : (Rune.first b s).bytes.length - 1 ≤ s.length := by
        obtain ⟨tail, rest, rfl, hbytes, -⟩ := exists_runes_cons b s
        simp [hbytes]
      rw [List.cons_append, runes_cons, runes_cons, Rune.first_append b s ht,
        List.drop_append_of_le_length hlen, ih _ (by simp at hn ⊢; omega) _ rfl, List.cons_append]

end Bytes

/-! ## Characters -/

namespace Rune

theorem continuation?_eq_some_iff {b : UInt8} {x : Nat} :
    continuation? b = some x ↔ b.toNat = x + 0x80 ∧ x < 0x40 := by
  unfold continuation?
  simp only [Bool.and_eq_true, decide_eq_true_eq, UInt8.le_iff_toNat_le, UInt8.reduceToNat]
  split
  · simp only [Option.some.injEq]
    omega
  · simp only [reduceCtorEq, false_iff]
    omega

theorem toNat_ofNat {n : Nat} (h : n < 0xD800 ∨ 0xDFFF < n ∧ n ≤ 0x10FFFF) :
    (Char.ofNat n).val.toNat = n := by
  have hv : n.isValidChar := by
    unfold Nat.isValidChar
    omega
  rw [Char.ofNat, dif_pos hv]
  rfl

theorem toNat_valid (c : Char) :
    c.val.toNat < 0xD800 ∨ 0xDFFF < c.val.toNat ∧ c.val.toNat ≤ 0x10FFFF := by
  have h := c.valid
  unfold UInt32.isValidChar Nat.isValidChar at h
  omega

/-- **A sequence is what its character is written as.** -/
theorem encode_of_sequence? {lead : UInt8} {tail : Bytes} {c : Char} {n : Nat}
    (h : sequence? lead tail = some (c, n)) : String.utf8EncodeChar c = lead :: tail := by
  match tail with
  | [] => cases h
  | [a] =>
    simp only [sequence?, Option.bind_eq_bind, Option.bind_eq_some_iff] at h
    obtain ⟨x, hx, h⟩ := h
    obtain ⟨hx, hlt⟩ := continuation?_eq_some_iff.1 hx
    split at h
    case isFalse => cases h
    case isTrue hlead =>
      simp only [Bool.and_eq_true, decide_eq_true_eq, UInt8.le_iff_toNat_le,
        UInt8.reduceToNat] at hlead
      obtain ⟨rfl, -⟩ := Prod.mk.inj (Option.some.inj h)
      have hv := toNat_ofNat (n := (lead.toNat - 0xC0) * 0x40 + x) (by omega)
      unfold String.utf8EncodeChar
      simp only [hv]
      rw [if_neg (by omega), if_pos (by omega)]
      simp only [List.cons.injEq, ← UInt8.toNat_inj, UInt8.toNat_ofNat', and_true]
      omega
  | [a, b] =>
    simp only [sequence?, Option.bind_eq_bind, Option.bind_eq_some_iff] at h
    obtain ⟨x, hx, y, hy, h⟩ := h
    obtain ⟨hx, hxlt⟩ := continuation?_eq_some_iff.1 hx
    obtain ⟨hy, hylt⟩ := continuation?_eq_some_iff.1 hy
    split at h
    case isFalse => cases h
    case isTrue hlead =>
      simp only [Bool.and_eq_true, Bool.not_eq_true', decide_eq_true_eq, UInt8.le_iff_toNat_le,
        UInt8.reduceToNat, Bool.and_eq_false_iff, decide_eq_false_iff_not] at hlead
      obtain ⟨rfl, -⟩ := Prod.mk.inj (Option.some.inj h)
      have hv := toNat_ofNat (n := (lead.toNat - 0xE0) * 0x1000 + x * 0x40 + y) (by omega)
      unfold String.utf8EncodeChar
      simp only [hv]
      rw [if_neg (by omega), if_neg (by omega), if_pos (by omega)]
      simp only [List.cons.injEq, ← UInt8.toNat_inj, UInt8.toNat_ofNat', and_true]
      omega
  | [a, b, d] =>
    simp only [sequence?, Option.bind_eq_bind, Option.bind_eq_some_iff] at h
    obtain ⟨x, hx, y, hy, z, hz, h⟩ := h
    obtain ⟨hx, hxlt⟩ := continuation?_eq_some_iff.1 hx
    obtain ⟨hy, hylt⟩ := continuation?_eq_some_iff.1 hy
    obtain ⟨hz, hzlt⟩ := continuation?_eq_some_iff.1 hz
    split at h
    case isFalse => cases h
    case isTrue hlead =>
      simp only [Bool.and_eq_true, decide_eq_true_eq, UInt8.le_iff_toNat_le,
        UInt8.reduceToNat] at hlead
      obtain ⟨rfl, -⟩ := Prod.mk.inj (Option.some.inj h)
      have hv := toNat_ofNat
        (n := (lead.toNat - 0xF0) * 0x40000 + x * 0x1000 + y * 0x40 + z) (by omega)
      unfold String.utf8EncodeChar
      simp only [hv]
      rw [if_neg (by omega), if_neg (by omega), if_neg (by omega)]
      simp only [List.cons.injEq, ← UInt8.toNat_inj, UInt8.toNat_ofNat', and_true]
      omega
  | _ :: _ :: _ :: _ :: _ => cases h

/-- **A character outside of ASCII is written as a sequence** that stands for it. -/
theorem sequence?_encode {c : Char} (hc : 0x7F < c.val.toNat) :
    ∃ lead tail n, String.utf8EncodeChar c = lead :: tail ∧ 0xC2 ≤ lead ∧
      tail.length = tailLength lead ∧ sequence? lead tail = some (c, n) := by
  have hvalid := toNat_valid c
  have hcont : ∀ x, x < 0x40 → continuation? (UInt8.ofNat (x + 0x80)) = some x := by
    intro x hx
    rw [continuation?_eq_some_iff, UInt8.toNat_ofNat']
    omega
  have hcode : ∀ n, n = c.val.toNat → Char.ofNat n = c := by
    rintro _ rfl
    exact Char.ofNat_toNat c
  have hle : ∀ n : Nat, 0xC2 ≤ n → n < 256 → 0xC2 ≤ UInt8.ofNat n := by
    intro n hlow hn
    simp only [UInt8.le_iff_toNat_le, UInt8.toNat_ofNat', UInt8.reduceToNat]
    omega
  unfold String.utf8EncodeChar
  simp only
  rw [if_neg (by omega)]
  split
  case isTrue h2 =>
    refine ⟨_, _, 2, rfl, hle _ (by omega) (by omega), ?_, ?_⟩
    · simp only [tailLength, UInt8.lt_iff_toNat_lt, UInt8.toNat_ofNat', UInt8.reduceToNat]
      rw [if_pos (by omega)]
      rfl
    · simp only [sequence?, hcont _ (Nat.mod_lt _ (by decide)), Option.bind_eq_bind,
        Option.bind_some, UInt8.le_iff_toNat_le, UInt8.toNat_ofNat', UInt8.reduceToNat]
      rw [if_pos (by simp only [Bool.and_eq_true, decide_eq_true_eq]; omega), hcode _ (by omega)]
  case isFalse h2 =>
    split
    case isTrue h3 =>
      refine ⟨_, _, 3, rfl, hle _ (by omega) (by omega), ?_, ?_⟩
      · simp only [tailLength, UInt8.lt_iff_toNat_lt, UInt8.toNat_ofNat', UInt8.reduceToNat]
        rw [if_neg (by omega), if_pos (by omega)]
        rfl
      · simp only [sequence?, hcont _ (Nat.mod_lt _ (by decide)), Option.bind_eq_bind,
          Option.bind_some, UInt8.le_iff_toNat_le, UInt8.toNat_ofNat', UInt8.reduceToNat]
        rw [if_pos (by simp only [Bool.and_eq_true, Bool.not_eq_true', decide_eq_true_eq,
          Bool.and_eq_false_iff, decide_eq_false_iff_not]; omega), hcode _ (by omega)]
    case isFalse h3 =>
      refine ⟨_, _, 4, rfl, hle _ (by omega) (by omega), ?_, ?_⟩
      · simp only [tailLength, UInt8.lt_iff_toNat_lt, UInt8.toNat_ofNat', UInt8.reduceToNat]
        rw [if_neg (by omega), if_neg (by omega)]
        rfl
      · simp only [sequence?, hcont _ (Nat.mod_lt _ (by decide)), Option.bind_eq_bind,
          Option.bind_some, UInt8.le_iff_toNat_le, UInt8.toNat_ofNat', UInt8.reduceToNat]
        rw [if_pos (by simp only [Bool.and_eq_true, decide_eq_true_eq]; omega), hcode _ (by omega)]

theorem encode_ascii {c : Char} (hc : c.val.toNat ≤ 0x7F) :
    String.utf8EncodeChar c = [UInt8.ofNat c.val.toNat] := by
  unfold String.utf8EncodeChar
  simp only
  rw [if_pos hc]

/-- No character is written from the middle of a sequence on. -/
theorem continuation?_head_encode (c : Char) :
    ∃ lead tail, String.utf8EncodeChar c = lead :: tail ∧ continuation? lead = none := by
  by_cases hc : c.val.toNat ≤ 0x7F
  · refine ⟨_, _, encode_ascii hc, ?_⟩
    rw [Option.eq_none_iff_forall_ne_some]
    intro x hx
    rw [continuation?_eq_some_iff, UInt8.toNat_ofNat'] at hx
    omega
  · obtain ⟨lead, tail, n, henc, hlead, -, -⟩ := sequence?_encode (c := c) (by omega)
    refine ⟨lead, tail, henc, ?_⟩
    rw [Option.eq_none_iff_forall_ne_some]
    intro x hx
    rw [continuation?_eq_some_iff] at hx
    simp only [UInt8.le_iff_toNat_le, UInt8.reduceToNat] at hlead
    omega

theorem length_encode_pos (c : Char) : 0 < (String.utf8EncodeChar c).length := by
  obtain ⟨lead, tail, henc, -⟩ := continuation?_head_encode c
  simp [henc]

theorem first_eq_ofChar_or (b : UInt8) (s : Bytes) :
    first b s = ofChar (first b s).char ∨ first b s = malformed b := by
  rcases first_cases b s with ⟨hb, h⟩ | ⟨tail, rest, c, n, -, -, -, hseq, h⟩ | h
  · left
    simp only [UInt8.lt_iff_toNat_lt, UInt8.reduceToNat] at hb
    have hv := toNat_ofNat (n := b.toNat) (by omega)
    have henc := encode_ascii (c := Char.ofNat b.toNat) (by omega)
    rw [hv, UInt8.ofNat_toNat] at henc
    rw [h, ofChar, henc]
  · left
    rw [h, ofChar, encode_of_sequence? hseq]
  · exact .inr h

theorem map_char_map_ofChar (cs : List Char) : (cs.map ofChar).map char = cs := by
  rw [List.map_map]
  exact List.map_id cs

end Rune

namespace Bytes

/-- **A character that has been written is read again**, whatever follows. -/
theorem runes_encode_append (c : Char) (t : Bytes) :
    runes (String.utf8EncodeChar c ++ t) = Rune.ofChar c :: runes t := by
  by_cases hc : c.val.toNat ≤ 0x7F
  · have hlt : UInt8.ofNat c.val.toNat < 0x80 := by
      simp only [UInt8.lt_iff_toNat_lt, UInt8.toNat_ofNat', UInt8.reduceToNat]
      omega
    have hnat : (UInt8.ofNat c.val.toNat).toNat = c.val.toNat := by
      rw [UInt8.toNat_ofNat']
      omega
    rw [Rune.ofChar, Rune.encode_ascii hc, List.singleton_append, runes_cons, Rune.first_ascii hlt,
      hnat]
    exact congrArg₂ List.cons (congrArg (Rune.mk · _) (Char.ofNat_toNat c)) rfl
  · obtain ⟨lead, tail, n, henc, hlead, hlen, hseq⟩ := Rune.sequence?_encode (c := c) (by omega)
    rw [Rune.ofChar, henc, List.cons_append, runes_cons, Rune.first_sequence hlead hlen hseq]
    simp

/-- A part of the runes of a text that stands at its end is read off a part of the text. -/
theorem exists_of_runes_eq_append : ∀ {a b : List Rune} {s : Bytes}, s.runes = a ++ b →
    ∃ t, s = ofRunes a ++ t ∧ t.runes = b
  | [], b, s, h => ⟨s, rfl, h⟩
  | r :: a, b, [], h => by simp at h
  | r :: a, b, lead :: s, h => by
    obtain ⟨tail, rest, rfl, hbytes, hrunes⟩ := exists_runes_cons lead s
    rw [hrunes, List.cons_append, List.cons.injEq] at h
    obtain ⟨rfl, hrest⟩ := h
    obtain ⟨t, rfl, ht⟩ := exists_of_runes_eq_append hrest
    refine ⟨t, ?_, ht⟩
    rw [ofRunes_cons, hbytes]
    simp

theorem runes_append_encode (s : Bytes) (c : Char) (t : Bytes) :
    runes (s ++ (String.utf8EncodeChar c ++ t)) = runes s ++ Rune.ofChar c :: runes t := by
  obtain ⟨lead, tail, henc, hlead⟩ := Rune.continuation?_head_encode c
  rw [runes_append, runes_encode_append]
  intro b hb
  rw [henc, List.cons_append, List.head?_cons, Option.mem_some_iff] at hb
  rw [← hb, hlead]

@[simp] theorem ofChars_nil : ofChars [] = [] := rfl

@[simp] theorem ofChars_cons (c : Char) (cs : List Char) :
    ofChars (c :: cs) = String.utf8EncodeChar c ++ ofChars cs :=
  rfl

theorem ofChars_append (cs ds : List Char) : ofChars (cs ++ ds) = ofChars cs ++ ofChars ds := by
  simp [ofChars]

theorem runes_ofChars_append (cs : List Char) (t : Bytes) :
    runes (ofChars cs ++ t) = cs.map Rune.ofChar ++ runes t := by
  induction cs with
  | nil => rfl
  | cons c cs ih => rw [ofChars_cons, List.append_assoc, runes_encode_append, ih]; rfl

theorem runes_ofChars (cs : List Char) : runes (ofChars cs) = cs.map Rune.ofChar := by
  have h := runes_ofChars_append cs []
  rwa [List.append_nil, runes_nil, List.append_nil] at h

theorem runes_append_ofChars (s : Bytes) (cs : List Char) :
    runes (s ++ ofChars cs) = runes s ++ cs.map Rune.ofChar := by
  cases cs with
  | nil => simp
  | cons c cs => rw [ofChars_cons, runes_append_encode, runes_ofChars, List.map_cons]

@[simp] theorem chars_ofChars (cs : List Char) : chars (ofChars cs) = cs := by
  rw [chars, runes_ofChars, Rune.map_char_map_ofChar]

theorem chars_append_ofChars (s : Bytes) (cs : List Char) :
    chars (s ++ ofChars cs) = chars s ++ cs := by
  rw [chars, runes_append_ofChars, List.map_append, Rune.map_char_map_ofChar]
  rfl

/-- **Every rune of a text is a written character or a malformed byte.** -/
theorem eq_ofChar_or_malformed {s : Bytes} {r : Rune} (hr : r ∈ s.runes) :
    r = Rune.ofChar r.char ∨ ∃ b, r = Rune.malformed b := by
  induction hn : s.length using Nat.strongRecOn generalizing s with
  | _ n ih =>
    cases s with
    | nil => cases hr
    | cons b s =>
      obtain ⟨tail, rest, rfl, -, hrunes⟩ := exists_runes_cons b s
      rw [hrunes, List.mem_cons] at hr
      rcases hr with rfl | hr
      · exact (Rune.first_eq_ofChar_or b _).imp_right fun h => ⟨b, h⟩
      · exact ih rest.length (by simp at hn; omega) hr rfl

theorem eq_ofChar_of_ne {s : Bytes} {r : Rune} (hr : r ∈ s.runes) (h : r.char ≠ Rune.replacement) :
    r = Rune.ofChar r.char := by
  rcases eq_ofChar_or_malformed hr with hr | ⟨b, rfl⟩
  · exact hr
  · exact absurd rfl h

theorem eq_nil_of_chars {s : Bytes} (h : s.chars = []) : s = [] := by
  rw [← ofRunes_runes s, List.map_eq_nil_iff.1 h, ofRunes_nil]

theorem ofRunes_eq_ofChars {rs : List Rune} (h : ∀ r ∈ rs, r = Rune.ofChar r.char) :
    ofRunes rs = ofChars (rs.map Rune.char) := by
  rw [ofRunes, ofChars, List.flatMap_map]
  exact List.flatMap_congr fun r hr => congrArg Rune.bytes (h r hr)

theorem bytes_ne_nil {s : Bytes} {r : Rune} (hr : r ∈ s.runes) : r.bytes ≠ [] := by
  rcases eq_ofChar_or_malformed hr with hr' | ⟨b, rfl⟩
  · rw [hr', ← List.length_pos_iff]
    exact Rune.length_encode_pos r.char
  · simp [Rune.malformed]

/-- The runes of a well-formed text are written as their characters. -/
theorem encode_of_isWellFormed {s : Bytes} (h : s.isWellFormed = true) {r : Rune}
    (hr : r ∈ s.runes) :
    String.utf8EncodeChar r.char = r.bytes := by
  rcases eq_ofChar_or_malformed hr with hr' | ⟨b, rfl⟩
  · exact (congrArg Rune.bytes hr').symm
  · have := List.all_eq_true.1 h _ hr
    revert this
    simp [Rune.isMalformed, Rune.malformed]

/-- The characters of a well-formed text are written as the text. -/
theorem ofChars_chars {s : Bytes} (h : s.isWellFormed = true) : ofChars s.chars = s := by
  rw [ofChars, chars, List.flatMap_map, List.flatMap_congr fun r hr => encode_of_isWellFormed h hr]
  exact ofRunes_runes s

/-! ## Words in texts -/

theorem chars_append_ofChars_append (u : Bytes) {cs : List Char} (hne : cs ≠ []) (v : Bytes) :
    chars (u ++ (ofChars cs ++ v)) = chars u ++ (cs ++ chars v) := by
  obtain ⟨c, cs, rfl⟩ := List.exists_cons_of_ne_nil hne
  rw [ofChars_cons, List.append_assoc, chars, runes_append_encode, runes_ofChars_append]
  simp [chars, Rune.ofChar, Function.comp_def]

/-- Characters that are read somewhere in a text were written there, unless one of them is the
replacement of a malformed byte. -/
theorem exists_of_chars_eq_append {s : Bytes} {a cs b : List Char} (hcs : Rune.replacement ∉ cs)
    (h : s.chars = a ++ (cs ++ b)) :
    ∃ u v, s = u ++ (ofChars cs ++ v) ∧ (a = [] → u = []) ∧ (b = [] → v = []) := by
  obtain ⟨ra, more, hs, rfl, hmore⟩ := List.map_eq_append_iff.1 h
  obtain ⟨rc, rb, rfl, rfl, rfl⟩ := List.map_eq_append_iff.1 hmore
  obtain ⟨t, rfl, ht⟩ := exists_of_runes_eq_append hs
  obtain ⟨v, rfl, hv⟩ := exists_of_runes_eq_append ht
  have hwritten : ∀ r ∈ rc, r = Rune.ofChar r.char := by
    intro r hr
    refine eq_ofChar_of_ne (s := ofRunes rc ++ v) (by simp [ht, hr]) fun hchar => ?_
    exact hcs (hchar ▸ List.mem_map_of_mem hr)
  refine ⟨ofRunes ra, v, by rw [ofRunes_eq_ofChars hwritten], fun hnil => ?_, fun hnil => ?_⟩
  · rw [List.map_eq_nil_iff.1 hnil, ofRunes_nil]
  · exact eq_nil_of_chars (by rw [chars, hv, hnil])

section

variable {s : Bytes} {cs : List Char}

/-- **A text holds a word** if and only if its characters do. -/
theorem ofChars_infix_iff (hcs : Rune.replacement ∉ cs) : ofChars cs <:+: s ↔ cs <:+: s.chars := by
  by_cases hne : cs = []
  · simp [hne]
  constructor
  · rintro ⟨u, v, rfl⟩
    rw [List.append_assoc, chars_append_ofChars_append u hne]
    exact ⟨chars u, chars v, List.append_assoc ..⟩
  · rintro ⟨a, b, hs⟩
    obtain ⟨u, v, rfl, -, -⟩ := exists_of_chars_eq_append hcs (by rw [← hs, List.append_assoc])
    exact ⟨u, v, List.append_assoc ..⟩

theorem ofChars_prefix_iff (hcs : Rune.replacement ∉ cs) : ofChars cs <+: s ↔ cs <+: s.chars := by
  by_cases hne : cs = []
  · simp [hne]
  constructor
  · rintro ⟨v, rfl⟩
    exact ⟨chars v, (chars_append_ofChars_append [] hne v).symm⟩
  · rintro ⟨b, hs⟩
    obtain ⟨u, v, rfl, hu, -⟩ := exists_of_chars_eq_append (a := []) hcs hs.symm
    exact ⟨v, by rw [hu rfl, List.nil_append]⟩

theorem ofChars_suffix_iff (hcs : Rune.replacement ∉ cs) : ofChars cs <:+ s ↔ cs <:+ s.chars := by
  constructor
  · rintro ⟨u, rfl⟩
    exact ⟨chars u, (chars_append_ofChars u cs).symm⟩
  · rintro ⟨a, hs⟩
    obtain ⟨u, v, rfl, -, hv⟩ := exists_of_chars_eq_append (b := []) hcs
      (by rw [← hs, List.append_nil])
    exact ⟨u, by rw [hv rfl, List.append_nil]⟩

end

end Bytes

end VarLint
