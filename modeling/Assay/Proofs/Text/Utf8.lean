import Assay.Text.Utf8

/-!
Decoding bytes as UTF-8 reads whole characters as they are and every maximal ill-formed
subsequence as one replacement character.
-/

namespace Assay.Text.Utf8

open String (utf8EncodeChar)

variable {b low high : UInt8} {bytes part rest : List UInt8} {c d : Char} {cs : List Char}
  {count value : Nat}

/-- `part` is a maximal ill-formed subsequence in front of `rest`: no character begins where it
begins, and of the initial segments there it is the longest one that some character begins with, or
a single byte. -/
structure Broken (part rest : List UInt8) : Prop where
  nonempty : part ≠ []
  noCharacter : ∀ c, ¬ utf8EncodeChar c <+: part ++ rest
  opens : part.length = 1 ∨ ∃ c, part <+: utf8EncodeChar c
  longest : ∀ longer, longer <+: part ++ rest → part.length < longer.length →
    ∀ c, ¬ longer <+: utf8EncodeChar c

/-- What is read first from some bytes, and what is left of them. -/
inductive Takes : List UInt8 → Char → List UInt8 → Prop where
  | character (c : Char) (rest : List UInt8) : Takes (utf8EncodeChar c ++ rest) c rest
  | broken (part rest : List UInt8) : Broken part rest → Takes (part ++ rest) replacement rest

/-- The text that bytes are read as. -/
inductive Reads : List UInt8 → List Char → Prop where
  | nil : Reads [] []
  | cons {bytes rest : List UInt8} {c : Char} {cs : List Char} :
      Takes bytes c rest → Reads rest cs → Reads bytes (c :: cs)

/-- The byte of a character that `count` bytes follow, where it is not the first one. -/
def nextByte (count code : Nat) : Nat := code / 64 ^ count % 64 + 0x80

/-- The last `count` bytes of a character that is longer than that. -/
def continuation : Nat → Nat → List UInt8
  | 0, _ => []
  | count + 1, code => UInt8.ofNat (nextByte count code) :: continuation count code

/-- The numbers of the characters that have `count + 1` bytes after the first one. -/
def Spans : Nat → Nat → Prop
  | 0, code => 0x80 ≤ code ∧ code < 0x800
  | 1, code => 0x800 ≤ code ∧ code < 0x10000 ∧ (code < 0xD800 ∨ 0xDFFF < code)
  | 2, code => 0x10000 ≤ code ∧ code < 0x110000
  | _, _ => False

/-- The mark that the first byte of such a character carries above its bits. -/
def mark : Nat → Nat
  | 0 => 0xC0
  | 1 => 0xE0
  | _ => 0xF0

/-- The first bytes of such characters. -/
def Leads : Nat → Nat → Prop
  | 0, lead => 0xC2 ≤ lead ∧ lead < 0xE0
  | 1, lead => 0xE0 ≤ lead ∧ lead < 0xF0
  | 2, lead => 0xF0 ≤ lead ∧ lead < 0xF5
  | _, _ => False

theorem Spans.leads {code : Nat} (h : Spans count code) :
    Leads count (code / 64 ^ (count + 1) + mark count) := by
  match count with
  | 0 | 1 | 2 =>
    simp only [Spans] at h
    simp only [Leads, mark]
    omega

theorem Leads.unique {lead count' : Nat} (h : Leads count lead) (h' : Leads count' lead) :
    count = count' := by
  match count, count' with
  | 0, 0 | 1, 1 | 2, 2 => rfl
  | 0, 1 | 0, 2 | 1, 0 | 1, 2 | 2, 0 | 2, 1 =>
    simp only [Leads] at h h'
    omega

theorem Leads.bounds {lead : Nat} (h : Leads count lead) :
    0xC2 ≤ lead ∧ lead < 0xF5 ∧ mark count ≤ lead := by
  match count with
  | 0 | 1 | 2 =>
    simp only [Leads] at h
    simp only [mark]
    omega

theorem Spans.exists_char {code : Nat} (h : Spans count code) : ∃ c : Char, c.toNat = code := by
  have hvalid : code < 0xD800 ∨ 0xDFFF < code ∧ code < 0x110000 := by
    match count with
    | 0 | 1 | 2 =>
      simp only [Spans] at h
      omega
  exact ⟨Char.ofNatAux code hvalid, rfl⟩

theorem lt_or_spans (c : Char) : c.toNat < 0x80 ∨ ∃ count, Spans count c.toNat := by
  have hvalid : c.toNat < 0xD800 ∨ 0xDFFF < c.toNat ∧ c.toNat < 0x110000 := c.valid
  by_cases hone : c.toNat < 0x80
  · exact .inl hone
  by_cases htwo : c.toNat < 0x800
  · exact .inr ⟨0, by omega, htwo⟩
  by_cases hthree : c.toNat < 0x10000
  · exact .inr ⟨1, by omega, hthree, by omega⟩
  · exact .inr ⟨2, by omega, by omega⟩

theorem encodeChar_eq (c : Char) : utf8EncodeChar c =
    if c.toNat ≤ 0x7F then [UInt8.ofNat c.toNat]
    else if c.toNat ≤ 0x7FF then
      UInt8.ofNat (c.toNat / 64 ^ 1 % 32 + 0xC0) :: continuation 1 c.toNat
    else if c.toNat ≤ 0xFFFF then
      UInt8.ofNat (c.toNat / 64 ^ 2 % 16 + 0xE0) :: continuation 2 c.toNat
    else UInt8.ofNat (c.toNat / 64 ^ 3 % 8 + 0xF0) :: continuation 3 c.toNat := by
  simp only [continuation, nextByte, Nat.pow_zero, Nat.div_one, Nat.pow_one]
  rfl

theorem encodeChar_of_lt (h : c.toNat < 0x80) : utf8EncodeChar c = [UInt8.ofNat c.toNat] := by
  rw [encodeChar_eq, if_pos (by omega)]

theorem encodeChar_of_spans (h : Spans count c.toNat) : utf8EncodeChar c =
    UInt8.ofNat (c.toNat / 64 ^ (count + 1) + mark count) :: continuation (count + 1) c.toNat := by
  rw [encodeChar_eq]
  match count with
  | 0 =>
    obtain ⟨hle, hlt⟩ := h
    have hlead : c.toNat / 64 ^ 1 % 32 = c.toNat / 64 ^ 1 := Nat.mod_eq_of_lt (by omega)
    rw [if_neg (by omega), if_pos (by omega), hlead, mark]
  | 1 =>
    obtain ⟨hle, hlt, -⟩ := h
    have hlead : c.toNat / 64 ^ 2 % 16 = c.toNat / 64 ^ 2 := Nat.mod_eq_of_lt (by omega)
    rw [if_neg (by omega), if_neg (by omega), if_pos (by omega), hlead, mark]
  | 2 =>
    obtain ⟨hle, hlt⟩ := h
    have hlead : c.toNat / 64 ^ 3 % 8 = c.toNat / 64 ^ 3 := Nat.mod_eq_of_lt (by omega)
    have hmark : mark 2 = 0xF0 := rfl
    rw [if_neg (by omega), if_neg (by omega), if_neg (by omega), hlead, hmark]

theorem toNat_ofNat_of_lt {n : Nat} (h : n < 256) : (UInt8.ofNat n).toNat = n := by
  rw [UInt8.toNat_ofNat', Nat.mod_eq_of_lt h]

/-- No character begins like another one. -/
theorem eq_of_prefix (hc : utf8EncodeChar c <+: bytes) (hd : utf8EncodeChar d <+: bytes) :
    c = d := by
  obtain ⟨rest, rfl⟩ := hc
  obtain ⟨rest', hrest'⟩ := hd
  have hfirst := ByteArray.utf8DecodeChar?_utf8EncodeChar_append (b := rest.toByteArray) (c := c)
  have hsecond := ByteArray.utf8DecodeChar?_utf8EncodeChar_append (b := rest'.toByteArray) (c := d)
  rw [← List.toByteArray_append] at hfirst hsecond
  rw [hrest', hfirst] at hsecond
  exact Option.some.inj hsecond

/-- A longer part goes on with the next byte. -/
theorem append_head_prefix {longer : List UInt8} (h : longer <+: part ++ rest)
    (hlength : part.length < longer.length) : ∃ b ∈ rest.head?, part ++ [b] <+: longer := by
  have hpart : part <+: longer :=
    List.prefix_of_prefix_length_le (List.prefix_append part rest) h (by omega)
  obtain ⟨more, rfl⟩ := hpart
  have hmore : more <+: rest := (List.prefix_append_right_inj part).1 h
  cases more with
  | nil => simp at hlength
  | cons b more =>
    obtain ⟨rest, rfl⟩ := hmore
    exact ⟨b, rfl, more, by simp⟩

/-- A part that the next byte does not go on is a maximal one. -/
theorem Broken.of_stop (hne : part ≠ []) (hopens : part.length = 1 ∨ ∃ c, part <+: utf8EncodeChar c)
    (hno : ∀ c, ¬ utf8EncodeChar c <+: part)
    (hstop : ∀ b ∈ rest.head?, ∀ c, ¬ part ++ [b] <+: utf8EncodeChar c) : Broken part rest := by
  have hlongest : ∀ longer, longer <+: part ++ rest → part.length < longer.length →
      ∀ c, ¬ longer <+: utf8EncodeChar c := by
    intro longer hlonger hlength c hc
    obtain ⟨b, hb, hnext⟩ := append_head_prefix hlonger hlength
    exact hstop b hb c (hnext.trans hc)
  refine ⟨hne, ?_, hopens, hlongest⟩
  intro c hc
  by_cases hlength : part.length < (utf8EncodeChar c).length
  · exact hlongest _ hc hlength c (List.prefix_refl _)
  · exact hno c (List.prefix_of_prefix_length_le hc (List.prefix_append part rest) (by omega))

/-- The characters that begin with `part` are those that go on with `count + 1` bytes, the first
of them between `low` and `high`, and whose earlier bits are `value`. -/
structure Open (part : List UInt8) (count value : Nat) (low high : UInt8) : Prop where
  nonempty : part ≠ []
  bounds : 0x80 ≤ low.toNat ∧ low.toNat ≤ high.toNat ∧ high.toNat ≤ 0xBF
  sound : ∀ c, part <+: utf8EncodeChar c →
    utf8EncodeChar c = part ++ continuation (count + 1) c.toNat ∧
      c.toNat / 64 ^ (count + 1) = value ∧
      low.toNat ≤ nextByte count c.toNat ∧ nextByte count c.toNat ≤ high.toNat
  complete : ∀ code, code / 64 ^ (count + 1) = value → low.toNat ≤ nextByte count code →
    nextByte count code ≤ high.toNat →
      ∃ c : Char, c.toNat = code ∧ utf8EncodeChar c = part ++ continuation (count + 1) code

theorem nextByte_lt (count code : Nat) : nextByte count code < 256 := by
  unfold nextByte
  omega

/-- Six bits more. -/
theorem div_pow_eq_iff {code digit : Nat} (hdigit : digit < 64) :
    code / 64 ^ count = value * 64 + digit ↔
      code / 64 ^ (count + 1) = value ∧ nextByte count code = digit + 0x80 := by
  rw [Nat.pow_succ, ← Nat.div_div_eq_div_mul, nextByte]
  omega

namespace Open

variable (h : Open part count value low high)
include h

/-- A byte that goes on is within the bounds and adds its bits. -/
theorem continues (hc : part ++ [b] <+: utf8EncodeChar c) :
    low.toNat ≤ b.toNat ∧ b.toNat ≤ high.toNat ∧
      utf8EncodeChar c = (part ++ [b]) ++ continuation count c.toNat ∧
      c.toNat / 64 ^ count = value * 64 + (b.toNat - 0x80) := by
  obtain ⟨hencode, hvalue, hlow, hhigh⟩ := h.sound c ((List.prefix_append part [b]).trans hc)
  have hbounds := h.bounds
  rw [hencode, List.prefix_append_right_inj, continuation, List.cons_prefix_cons] at hc
  have hb : b.toNat = nextByte count c.toNat := by
    rw [hc.1, toNat_ofNat_of_lt (nextByte_lt count c.toNat)]
  refine ⟨by omega, by omega, ?_, ?_⟩
  · rw [hencode, continuation, ← hc.1, List.append_assoc, List.singleton_append]
  · exact (div_pow_eq_iff (by omega)).2 ⟨hvalue, by omega⟩

theorem exists_of_between {code : Nat} (hlow : low.toNat ≤ b.toNat) (hhigh : b.toNat ≤ high.toNat)
    (hcode : code / 64 ^ count = value * 64 + (b.toNat - 0x80)) :
    ∃ c : Char, c.toNat = code ∧
      utf8EncodeChar c = (part ++ [b]) ++ continuation count code := by
  have hbounds := h.bounds
  obtain ⟨hvalue, hnext⟩ := (div_pow_eq_iff (by omega)).1 hcode
  have hb : nextByte count code = b.toNat := by omega
  obtain ⟨c, hc, hencode⟩ := h.complete code hvalue (by omega) (by omega)
  refine ⟨c, hc, ?_⟩
  rw [hencode, continuation, hb, UInt8.ofNat_toNat, List.append_assoc, List.singleton_append]

theorem exists_prefix : ∃ c, part <+: utf8EncodeChar c := by
  have hbounds := h.bounds
  have hcode : (value * 64 + (low.toNat - 0x80)) * 64 ^ count / 64 ^ count =
      value * 64 + (low.toNat - 0x80) := Nat.mul_div_cancel _ (Nat.pow_pos (by omega))
  obtain ⟨c, -, hencode⟩ := h.exists_of_between (Nat.le_refl _) hbounds.2.1 hcode
  exact ⟨c, [low] ++ continuation count _, by rw [hencode, List.append_assoc]⟩

theorem not_prefix (c : Char) : ¬ utf8EncodeChar c <+: part := by
  intro hc
  obtain ⟨d, hd⟩ := h.exists_prefix
  obtain ⟨hencode, -⟩ := h.sound d hd
  have hsame : c = d := eq_of_prefix (hc.trans hd) (List.prefix_refl _)
  subst hsame
  have hlength := hc.length_le
  rw [hencode, List.length_append, continuation, List.length_cons] at hlength
  omega

/-- What stops the part here makes it a maximal one. -/
theorem broken (hstop : ∀ b ∈ rest.head?, ¬ (low.toNat ≤ b.toNat ∧ b.toNat ≤ high.toNat)) :
    Broken part rest := by
  refine .of_stop h.nonempty (.inr h.exists_prefix) h.not_prefix ?_
  intro b hb c hc
  obtain ⟨hlow, hhigh, -⟩ := h.continues hc
  exact hstop b hb ⟨hlow, hhigh⟩

end Open

/-- With a byte within the bounds the part stays open, as long as more than one byte is missing. -/
theorem Open.extend (h : Open part (count + 1) value low high) (hlow : low.toNat ≤ b.toNat)
    (hhigh : b.toNat ≤ high.toNat) :
    Open (part ++ [b]) count (value * 64 + (b.toNat - 0x80)) 0x80 0xBF where
  nonempty := by simp
  bounds := by decide
  sound := by
    intro c hc
    obtain ⟨-, -, hencode, hvalue⟩ := h.continues hc
    have hlow : (0x80 : UInt8).toNat = 0x80 := rfl
    have hhigh : (0xBF : UInt8).toNat = 0xBF := rfl
    refine ⟨hencode, hvalue, ?_, ?_⟩
    · rw [hlow, nextByte]
      omega
    · rw [hhigh, nextByte]
      omega
  complete := by
    intro code hcode _ _
    exact h.exists_of_between hlow hhigh hcode

/-- With the last byte the part is a character. -/
theorem Open.finish (h : Open part 0 value low high) (hlow : low.toNat ≤ b.toNat)
    (hhigh : b.toNat ≤ high.toNat) :
    utf8EncodeChar (Char.ofNat (value * 64 + (b.toNat - 0x80))) = part ++ [b] := by
  obtain ⟨c, hc, hencode⟩ := h.exists_of_between hlow hhigh (Nat.div_one _)
  rw [← hc, Char.ofNat_toNat, hencode, continuation, List.append_nil]

/-- The characters that begin with a byte. -/
theorem encodeChar_of_lead (h : [b] <+: utf8EncodeChar c) :
    (c.toNat < 0x80 ∧ b.toNat = c.toNat) ∨
    ∃ count, Spans count c.toNat ∧ Leads count b.toNat ∧
      b.toNat = c.toNat / 64 ^ (count + 1) + mark count ∧
      utf8EncodeChar c = [b] ++ continuation (count + 1) c.toNat := by
  rcases lt_or_spans c with hlt | ⟨count, hspans⟩
  · rw [encodeChar_of_lt hlt] at h
    have hb : b = UInt8.ofNat c.toNat := (List.cons_prefix_cons.1 h).1
    exact .inl ⟨hlt, by rw [hb, toNat_ofNat_of_lt (by omega)]⟩
  · have hencode := encodeChar_of_spans hspans
    have hleads := hspans.leads
    rw [hencode] at h
    have hb : b = UInt8.ofNat (c.toNat / 64 ^ (count + 1) + mark count) :=
      (List.cons_prefix_cons.1 h).1
    have hnat : b.toNat = c.toNat / 64 ^ (count + 1) + mark count := by
      have hbounds := hleads.bounds
      rw [hb, toNat_ofNat_of_lt (by omega)]
    exact .inr ⟨count, hspans, hnat ▸ hleads, hnat, hb ▸ hencode⟩

theorem encodeChar_ofNat (hb : b.toNat < 0x80) : utf8EncodeChar (Char.ofNat b.toNat) = [b] := by
  have hc : (Char.ofNatAux b.toNat (.inl (by omega))).toNat = b.toNat := rfl
  generalize Char.ofNatAux b.toNat _ = c at hc
  rw [← hc, Char.ofNat_toNat, encodeChar_of_lt (by omega), hc, UInt8.ofNat_toNat]

/-- A first byte opens the characters of its block, which the bounds of the second byte cut out. -/
theorem Open.of_leads (hb : Leads count b.toNat)
    (hbounds : 0x80 ≤ low.toNat ∧ low.toNat ≤ high.toNat ∧ high.toNat ≤ 0xBF)
    (hblock : ∀ code, code / 64 ^ (count + 1) + mark count = b.toNat →
      (Spans count code ↔ low.toNat ≤ nextByte count code ∧ nextByte count code ≤ high.toNat)) :
    Open [b] count (b.toNat - mark count) low high where
  nonempty := List.cons_ne_nil b []
  bounds := hbounds
  sound := by
    intro c hc
    have hlead := hb.bounds
    rcases encodeChar_of_lead hc with ⟨hascii, heq⟩ | ⟨count', hspans, hleads, heq, hencode⟩
    · omega
    · cases hb.unique hleads
      exact ⟨hencode, by omega, (hblock _ heq.symm).1 hspans⟩
  complete := by
    intro code hcode hlow hhigh
    have hleast := hb.bounds
    have hlead : code / 64 ^ (count + 1) + mark count = b.toNat := by omega
    have hspans : Spans count code := (hblock code hlead).2 ⟨hlow, hhigh⟩
    obtain ⟨c, rfl⟩ := hspans.exists_char
    refine ⟨c, rfl, ?_⟩
    rw [encodeChar_of_spans hspans, hlead, UInt8.ofNat_toNat]
    rfl

theorem open_two (hb : Leads 0 b.toNat) : Open [b] 0 (b.toNat - 0xC0) 0x80 0xBF := by
  refine .of_leads hb (by decide) fun code hcode => ?_
  change Spans 0 code ↔ 0x80 ≤ nextByte 0 code ∧ nextByte 0 code ≤ 0xBF
  simp only [Leads, Spans, mark, nextByte] at hb hcode ⊢
  omega

theorem toNat_ne {x y : UInt8} (h : ¬ x = y) : x.toNat ≠ y.toNat := fun heq => h (UInt8.toNat.inj heq)

/-- Behind `E0` the overlong forms are cut off, behind `ED` the surrogates. -/
theorem open_three (hb : Leads 1 b.toNat) : Open [b] 1 (b.toNat - 0xE0)
    (if b = 0xE0 then 0xA0 else 0x80) (if b = 0xED then 0x9F else 0xBF) := by
  by_cases hleast : b = 0xE0
  · subst hleast
    refine .of_leads hb (by decide) fun code hcode => ?_
    change Spans 1 code ↔ 0xA0 ≤ nextByte 1 code ∧ nextByte 1 code ≤ 0xBF
    change code / 64 ^ 2 + 0xE0 = 0xE0 at hcode
    simp only [Spans, nextByte]
    omega
  by_cases hmost : b = 0xED
  · subst hmost
    refine .of_leads hb (by decide) fun code hcode => ?_
    change Spans 1 code ↔ 0x80 ≤ nextByte 1 code ∧ nextByte 1 code ≤ 0x9F
    change code / 64 ^ 2 + 0xE0 = 0xED at hcode
    simp only [Spans, nextByte]
    omega
  · have hleast' : b.toNat ≠ 0xE0 := toNat_ne hleast
    have hmost' : b.toNat ≠ 0xED := toNat_ne hmost
    rw [if_neg hleast, if_neg hmost]
    refine .of_leads hb (by decide) fun code hcode => ?_
    change Spans 1 code ↔ 0x80 ≤ nextByte 1 code ∧ nextByte 1 code ≤ 0xBF
    simp only [Leads, Spans, mark, nextByte] at hb hcode ⊢
    omega

/-- Behind `F0` the overlong forms are cut off, behind `F4` what is above the last character. -/
theorem open_four (hb : Leads 2 b.toNat) : Open [b] 2 (b.toNat - 0xF0)
    (if b = 0xF0 then 0x90 else 0x80) (if b = 0xF4 then 0x8F else 0xBF) := by
  have hmark : mark 2 = 0xF0 := rfl
  by_cases hleast : b = 0xF0
  · subst hleast
    refine .of_leads hb (by decide) fun code hcode => ?_
    change Spans 2 code ↔ 0x90 ≤ nextByte 2 code ∧ nextByte 2 code ≤ 0xBF
    change code / 64 ^ 3 + 0xF0 = 0xF0 at hcode
    simp only [Spans, nextByte]
    omega
  by_cases hmost : b = 0xF4
  · subst hmost
    refine .of_leads hb (by decide) fun code hcode => ?_
    change Spans 2 code ↔ 0x80 ≤ nextByte 2 code ∧ nextByte 2 code ≤ 0x8F
    change code / 64 ^ 3 + 0xF0 = 0xF4 at hcode
    simp only [Spans, nextByte]
    omega
  · have hleast' : b.toNat ≠ 0xF0 := toNat_ne hleast
    have hmost' : b.toNat ≠ 0xF4 := toNat_ne hmost
    rw [if_neg hleast, if_neg hmost]
    refine .of_leads hb (by decide) fun code hcode => ?_
    change Spans 2 code ↔ 0x80 ≤ nextByte 2 code ∧ nextByte 2 code ≤ 0xBF
    simp only [Leads, Spans, hmark, nextByte] at hb hcode ⊢
    omega

theorem not_prefix_of_stray (hascii : 0x80 ≤ b.toNat) (hb : b.toNat < 0xC2 ∨ 0xF5 ≤ b.toNat)
    (c : Char) : ¬ [b] <+: utf8EncodeChar c := by
  intro hc
  rcases encodeChar_of_lead hc with ⟨hlt, heq⟩ | ⟨count, -, hleads, -⟩
  · omega
  · have hbounds := hleads.bounds
    omega

/-- What a byte is where a character begins: a character, a stray byte, or the first byte of a
longer character. -/
theorem start_cases (b : UInt8) :
    (∃ c, start b = (.ready, [c]) ∧ utf8EncodeChar c = [b]) ∨
    (start b = (.ready, [replacement]) ∧ ∀ c, ¬ [b] <+: utf8EncodeChar c) ∨
    ∃ count value low high,
      start b = (.inside (count + 1) value low high, []) ∧ Open [b] count value low high := by
  simp only [start, UInt8.lt_iff_toNat_lt]
  split
  next hlt => exact .inl ⟨_, rfl, encodeChar_ofNat hlt⟩
  next h80 =>
  change ¬ b.toNat < 0x80 at h80
  split
  next hlt => exact .inr (.inl ⟨rfl, not_prefix_of_stray (by omega) (.inl hlt)⟩)
  next hC2 =>
  change ¬ b.toNat < 0xC2 at hC2
  split
  next hlt => exact .inr (.inr ⟨0, _, _, _, rfl, open_two ⟨by omega, hlt⟩⟩)
  next hE0 =>
  change ¬ b.toNat < 0xE0 at hE0
  split
  next hlt => exact .inr (.inr ⟨1, _, _, _, rfl, open_three ⟨by omega, hlt⟩⟩)
  next hF0 =>
  change ¬ b.toNat < 0xF0 at hF0
  split
  next hlt => exact .inr (.inr ⟨2, _, _, _, rfl, open_four ⟨by omega, hlt⟩⟩)
  next hF5 =>
    change ¬ b.toNat < 0xF5 at hF5
    exact .inr (.inl ⟨rfl, not_prefix_of_stray (by omega) (.inr (by omega))⟩)

theorem decodeFrom_cons (out : List Char) (state : State) (b : UInt8) (rest : List UInt8) :
    decodeFrom out state (b :: rest) =
      decodeFrom ((step state b).2.reverse ++ out) (step state b).1 rest := by
  cases state <;> rfl

/-- A byte that does not go on is read as the first one of the next character. -/
theorem decodeFrom_of_stop {missing : Nat}
    (hstop : ¬ (low.toNat ≤ b.toNat ∧ b.toNat ≤ high.toNat)) (out : List Char)
    (rest : List UInt8) :
    decodeFrom out (.inside missing value low high) (b :: rest) =
      decodeFrom (replacement :: out) .ready (b :: rest) := by
  have hstep : step (.inside missing value low high) b =
      ((start b).1, replacement :: (start b).2) := by
    simp only [step, UInt8.le_iff_toNat_le, if_neg hstop]
  rw [decodeFrom_cons, decodeFrom_cons, hstep, List.reverse_cons, List.append_assoc]
  rfl

/-- Reading on inside a character takes one character, or the part as an ill-formed one. -/
theorem decodeFrom_inside (h : Open part count value low high) (bytes : List UInt8) :
    ∃ c rest, Takes (part ++ bytes) c rest ∧ rest.length ≤ bytes.length ∧
      ∀ out, decodeFrom out (.inside (count + 1) value low high) bytes =
        decodeFrom (c :: out) .ready rest := by
  induction bytes generalizing part count value low high with
  | nil =>
    have hbroken : Broken part [] := h.broken nofun
    exact ⟨replacement, [], .broken part [] hbroken, Nat.le_refl _, fun _ => rfl⟩
  | cons b bytes ih =>
    by_cases hbetween : low.toNat ≤ b.toNat ∧ b.toNat ≤ high.toNat
    · obtain ⟨hlow, hhigh⟩ := hbetween
      have hparts : part ++ b :: bytes = (part ++ [b]) ++ bytes := by simp
      simp only [decodeFrom_cons, step, UInt8.le_iff_toNat_le, if_pos (And.intro hlow hhigh)]
      cases count with
      | zero =>
        refine ⟨_, bytes, ?_, by simp, fun _ => rfl⟩
        rw [hparts, ← h.finish hlow hhigh]
        exact .character _ bytes
      | succ count =>
        obtain ⟨c, rest, htakes, hlength, hdecode⟩ := ih (h.extend hlow hhigh)
        rw [← hparts] at htakes
        exact ⟨c, rest, htakes, Nat.le_succ_of_le hlength, hdecode⟩
    · have hbroken : Broken part (b :: bytes) := by
        refine h.broken fun b' hb' => ?_
        cases hb'
        exact hbetween
      exact ⟨replacement, b :: bytes, .broken part _ hbroken, Nat.le_refl _,
        fun out => decodeFrom_of_stop hbetween out bytes⟩

theorem encodeChar_length_pos (c : Char) : 0 < (utf8EncodeChar c).length := by
  rw [String.length_utf8EncodeChar]
  exact c.utf8Size_pos

/-- A byte that no character begins with is ill-formed by itself. -/
theorem Broken.of_stray (hstray : ∀ c, ¬ [b] <+: utf8EncodeChar c) : Broken [b] rest := by
  refine .of_stop (List.cons_ne_nil b []) (.inl rfl) ?_ ?_
  · intro c hc
    have hpos := encodeChar_length_pos c
    have hle : (utf8EncodeChar c).length ≤ 1 := hc.length_le
    have hsame : utf8EncodeChar c = [b] := hc.eq_of_length (by rw [List.length_singleton]; omega)
    exact hstray c (hsame ▸ List.prefix_refl [b])
  · intro b' _ c hc
    exact hstray c ((List.prefix_append [b] [b']).trans hc)

/-- Between characters decoding takes the next character, or what is ill-formed there. -/
theorem decodeFrom_ready (b : UInt8) (bytes : List UInt8) :
    ∃ c rest, Takes (b :: bytes) c rest ∧ rest.length ≤ bytes.length ∧
      ∀ out, decodeFrom out .ready (b :: bytes) = decodeFrom (c :: out) .ready rest := by
  simp only [decodeFrom_cons, step]
  rcases start_cases b with ⟨c, hstart, hencode⟩ | ⟨hstart, hstray⟩ | ⟨_, _, _, _, hstart, hopen⟩
  · rw [hstart]
    have htakes := Takes.character c bytes
    rw [hencode] at htakes
    exact ⟨c, bytes, htakes, Nat.le_refl _, fun _ => rfl⟩
  · rw [hstart]
    have htakes : Takes (b :: bytes) replacement bytes := .broken [b] bytes (.of_stray hstray)
    exact ⟨replacement, bytes, htakes, Nat.le_refl _, fun _ => rfl⟩
  · rw [hstart]
    exact decodeFrom_inside hopen bytes

theorem exists_reads (bytes : List UInt8) :
    ∃ cs, Reads bytes cs ∧ ∀ out, decodeFrom out .ready bytes = out.reverse ++ cs := by
  match bytes with
  | [] => exact ⟨[], .nil, fun out => (List.append_nil _).symm⟩
  | b :: bytes =>
    obtain ⟨c, rest, htakes, hlength, hdecode⟩ := decodeFrom_ready b bytes
    obtain ⟨cs, hreads, hrest⟩ := exists_reads rest
    refine ⟨c :: cs, .cons htakes hreads, fun out => ?_⟩
    rw [hdecode, hrest, List.reverse_cons, List.append_assoc, List.singleton_append]
termination_by bytes.length
decreasing_by
  rw [List.length_cons]
  omega

theorem Takes.eq_append (h : Takes bytes c rest) :
    bytes = utf8EncodeChar c ++ rest ∨
      ∃ part, bytes = part ++ rest ∧ Broken part rest ∧ c = replacement := by
  cases h with
  | character c rest => exact .inl rfl
  | broken part rest hbroken => exact .inr ⟨part, rfl, hbroken, rfl⟩

theorem Takes.ne_nil (h : Takes bytes c rest) : bytes ≠ [] := by
  rcases h.eq_append with rfl | ⟨part, rfl, hbroken, -⟩
  · have hne : utf8EncodeChar c ≠ [] := List.length_pos_iff.1 (encodeChar_length_pos c)
    exact List.append_ne_nil_of_left_ne_nil hne rest
  · exact List.append_ne_nil_of_left_ne_nil hbroken.nonempty rest

theorem Broken.length_le {part' rest' : List UInt8} (h : Broken part rest)
    (h' : Broken part' rest') (hsame : part ++ rest = part' ++ rest') :
    part'.length ≤ part.length := by
  apply Nat.le_of_not_lt
  intro hlt
  have hprefix : part' <+: part ++ rest := hsame ▸ List.prefix_append part' rest'
  rcases h'.opens with hone | ⟨c, hc⟩
  · exact h.nonempty (List.length_eq_zero_iff.1 (by omega))
  · exact h.longest part' hprefix hlt c hc

theorem Takes.unique {rest' : List UInt8} (h : Takes bytes c rest) (h' : Takes bytes d rest') :
    c = d ∧ rest = rest' := by
  rcases h.eq_append with hc | ⟨part, hpart, hbroken, rfl⟩
  · have hprefix : utf8EncodeChar c <+: bytes := hc ▸ List.prefix_append _ _
    rcases h'.eq_append with hd | ⟨part', hpart', hbroken', -⟩
    · have hprefix' : utf8EncodeChar d <+: bytes := hd ▸ List.prefix_append _ _
      cases eq_of_prefix hprefix hprefix'
      exact ⟨rfl, List.append_cancel_left (hc.symm.trans hd)⟩
    · exact absurd (hpart' ▸ hprefix) (hbroken'.noCharacter c)
  · rcases h'.eq_append with hd | ⟨part', hpart', hbroken', rfl⟩
    · have hprefix : utf8EncodeChar d <+: bytes := hd ▸ List.prefix_append _ _
      exact absurd (hpart ▸ hprefix) (hbroken.noCharacter d)
    · have hsame : part ++ rest = part' ++ rest' := hpart.symm.trans hpart'
      have hle := hbroken.length_le hbroken' hsame
      have hge := hbroken'.length_le hbroken hsame.symm
      exact ⟨rfl, (List.append_inj hsame (by omega)).2⟩

theorem Reads.unique {cs' : List Char} (h : Reads bytes cs) (h' : Reads bytes cs') : cs = cs' := by
  induction h generalizing cs' with
  | nil =>
    cases h' with
    | nil => rfl
    | cons htakes' _ => exact absurd rfl htakes'.ne_nil
  | cons htakes _ ih =>
    cases h' with
    | nil => exact absurd rfl htakes.ne_nil
    | cons htakes' hreads' =>
      obtain ⟨rfl, rfl⟩ := htakes.unique htakes'
      rw [ih hreads']

/-- Decoding gives the text that the bytes are read as, and no other. -/
theorem decode_eq_iff {s : String} : decode bytes = s ↔ Reads bytes s.toList := by
  obtain ⟨cs, hreads, hdecode⟩ := exists_reads bytes
  have hcs : (decode bytes).toList = cs := by
    rw [decode, String.toList_ofList, hdecode, List.reverse_nil, List.nil_append]
  constructor
  · rintro rfl
    rwa [hcs]
  · intro h
    rw [← String.toList_inj, hcs]
    exact hreads.unique h

theorem reads_encode (s : String) : Reads (encode s) s.toList := by
  unfold encode
  induction s.toList with
  | nil => exact .nil
  | cons c cs ih => exact .cons (.character c _) ih

/-- Without a replacement character the bytes are those of the text. -/
theorem Reads.eq_flatMap (h : Reads bytes cs) (hcs : replacement ∉ cs) :
    bytes = cs.flatMap utf8EncodeChar := by
  induction h with
  | nil => rfl
  | cons htakes _ ih =>
    rcases htakes.eq_append with hbytes | ⟨part, -, -, rfl⟩
    · rw [hbytes, ih fun hmem => hcs (List.mem_cons_of_mem _ hmem), List.flatMap_cons]
    · exact absurd List.mem_cons_self hcs

/-- Bytes that are read as a text are its bytes, if the text has no replacement character or the
bytes are those of some text. -/
theorem reads_iff_of_clean {s : String}
    (h : replacement ∉ s.toList ∨ ∃ t, bytes = encode t) :
    Reads bytes s.toList ↔ bytes = encode s := by
  constructor
  · intro hreads
    rcases h with hclean | ⟨t, rfl⟩
    · exact hreads.eq_flatMap hclean
    · exact congrArg encode (String.toList_inj.1 ((reads_encode t).unique hreads))
  · rintro rfl
    exact reads_encode s

end Assay.Text.Utf8
