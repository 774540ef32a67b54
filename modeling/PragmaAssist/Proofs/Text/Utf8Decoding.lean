import PragmaAssist.Text.Utf8

/-! The strict reading of UTF-8 takes exactly the encodings of texts. A character that is read in
part stands for the ways to complete it, which are the rests of its encodings. -/
namespace PragmaAssist

/-! ### What the first byte of a character says -/

namespace Lead
variable {b : UInt8}

theorem ofByte_one (h : b.toNat < 0x80) : ofByte b = .whole (Char.ofNat b.toNat) := by
  simp [ofByte, UInt8.lt_iff_toNat_lt, h]

theorem ofByte_two (h : 0xC2 ≤ b.toNat) (h' : b.toNat < 0xE0) :
    ofByte b = .part ⟨b, 1, 1, 0x80, 0xBF, b.toNat - 0xC0⟩ := by
  have h₁ : ¬ b.toNat < 0x80 := by omega
  have h₂ : ¬ b.toNat < 0xC2 := by omega
  simp [ofByte, UInt8.lt_iff_toNat_lt, h₁, h₂, h']

theorem ofByte_three (h : 0xE0 ≤ b.toNat) (h' : b.toNat < 0xF0) :
    ofByte b = .part ⟨b, 1, 2, if b = 0xE0 then 0xA0 else 0x80, if b = 0xED then 0x9F else 0xBF,
      b.toNat - 0xE0⟩ := by
  have h₁ : ¬ b.toNat < 0x80 := by omega
  have h₂ : ¬ b.toNat < 0xC2 := by omega
  have h₃ : ¬ b.toNat < 0xE0 := by omega
  simp [ofByte, UInt8.lt_iff_toNat_lt, h₁, h₂, h₃, h']

theorem ofByte_four (h : 0xF0 ≤ b.toNat) (h' : b.toNat < 0xF5) :
    ofByte b = .part ⟨b, 1, 3, if b = 0xF0 then 0x90 else 0x80, if b = 0xF4 then 0x8F else 0xBF,
      b.toNat - 0xF0⟩ := by
  have h₁ : ¬ b.toNat < 0x80 := by omega
  have h₂ : ¬ b.toNat < 0xC2 := by omega
  have h₃ : ¬ b.toNat < 0xE0 := by omega
  have h₄ : ¬ b.toNat < 0xF0 := by omega
  simp [ofByte, UInt8.lt_iff_toNat_lt, h₁, h₂, h₃, h₄, h']

theorem ofByte_invalid (h : 0x80 ≤ b.toNat) (h' : b.toNat < 0xC2 ∨ 0xF5 ≤ b.toNat) :
    ofByte b = .invalid := by
  have h₁ : ¬ b.toNat < 0x80 := by omega
  rcases h' with h' | h'
  · simp [ofByte, UInt8.lt_iff_toNat_lt, h₁, h']
  · have h₂ : ¬ b.toNat < 0xC2 := by omega
    have h₃ : ¬ b.toNat < 0xE0 := by omega
    have h₄ : ¬ b.toNat < 0xF0 := by omega
    have h₅ : ¬ b.toNat < 0xF5 := by omega
    simp [ofByte, UInt8.lt_iff_toNat_lt, h₁, h₂, h₃, h₄, h₅]

end Lead

/-! ### How a character is completed -/

namespace Unfinished

/-- The bytes complete a character that was read in part. -/
def Completes : Unfinished → List UInt8 → Char → Prop
  | _, [], _ => False
  | p, b :: tail, c =>
    match p.next b with
    | .whole d => d = c ∧ tail = []
    | .part q => Completes q tail c
    | .invalid => False

def push (p : Unfinished) (b : UInt8) : Unfinished :=
  ⟨p.first, p.taken + 1, p.missing - 1, 0x80, 0xBF, p.value * 64 + (b.toNat - 0x80)⟩

def Allows (p : Unfinished) (b : UInt8) : Prop := p.low ≤ b ∧ b ≤ p.high

instance (p : Unfinished) (b : UInt8) : Decidable (p.Allows b) :=
  inferInstanceAs (Decidable (_ ∧ _))

variable {p : Unfinished} {tail : List UInt8} {c : Char}

theorem next_eq (p : Unfinished) (b : UInt8) :
    p.next b = if p.Allows b then
      if p.missing = 1 then .whole (Char.ofNat (p.push b).value) else .part (p.push b)
    else .invalid := by
  by_cases hb : p.low ≤ b ∧ b ≤ p.high
  · rw [next, if_pos hb, if_pos (show p.Allows b from hb), push]
  · rw [next, if_neg hb, if_neg (show ¬ p.Allows b from hb)]

theorem completes_last (hp : p.missing = 1) :
    p.Completes tail c ↔ ∃ b, tail = [b] ∧ p.Allows b ∧ Char.ofNat (p.push b).value = c := by
  cases tail with
  | nil => simp [Completes]
  | cons b tail =>
    rw [Completes, next_eq, if_pos hp]
    constructor
    · intro h
      by_cases hb : p.Allows b
      · rw [if_pos hb] at h
        obtain ⟨hc, rfl⟩ := h
        exact ⟨b, rfl, hb, hc⟩
      · rw [if_neg hb] at h
        exact h.elim
    · rintro ⟨x, hx, hb, hc⟩
      obtain ⟨rfl, rfl⟩ := List.cons.inj hx
      rw [if_pos hb]
      exact ⟨hc, rfl⟩

theorem completes_more (hp : p.missing ≠ 1) :
    p.Completes tail c ↔ ∃ b rest, tail = b :: rest ∧ p.Allows b ∧ (p.push b).Completes rest c := by
  cases tail with
  | nil => simp [Completes]
  | cons b tail =>
    rw [Completes, next_eq, if_neg hp]
    constructor
    · intro h
      by_cases hb : p.Allows b
      · rw [if_pos hb] at h
        exact ⟨b, tail, rfl, hb, h⟩
      · rw [if_neg hb] at h
        exact h.elim
    · rintro ⟨x, rest, hx, hb, h⟩
      obtain ⟨rfl, rfl⟩ := List.cons.inj hx
      rwa [if_pos hb]

theorem allows_tail {f : UInt8} {n m v : Nat} {x : UInt8} :
    (⟨f, n, m, 0x80, 0xBF, v⟩ : Unfinished).Allows x ↔ 0x80 ≤ x.toNat ∧ x.toNat ≤ 0xBF := by
  simp [Unfinished.Allows, UInt8.le_iff_toNat_le]

theorem allows_between {f b u v : UInt8} {n m w : Nat} {x l l' h h' : UInt8} :
    (⟨f, n, m, if b = u then l else l', if b = v then h else h', w⟩ : Unfinished).Allows x ↔
      ((b.toNat = u.toNat → l.toNat ≤ x.toNat) ∧ (b.toNat ≠ u.toNat → l'.toNat ≤ x.toNat)) ∧
        (b.toNat = v.toNat → x.toNat ≤ h.toNat) ∧ (b.toNat ≠ v.toNat → x.toNat ≤ h'.toNat) := by
  have hlow : (if b = u then l else l').toNat ≤ x.toNat ↔
      (b = u → l.toNat ≤ x.toNat) ∧ (b ≠ u → l'.toNat ≤ x.toNat) := by
    by_cases hu : b = u <;> simp [hu]
  have hhigh : x.toNat ≤ (if b = v then h else h').toNat ↔
      (b = v → x.toNat ≤ h.toNat) ∧ (b ≠ v → x.toNat ≤ h'.toNat) := by
    by_cases hv : b = v <;> simp [hv]
  simp only [Unfinished.Allows, UInt8.le_iff_toNat_le, hlow, hhigh, ne_eq, UInt8.toNat_inj]

end Unfinished

namespace Lead
variable {b : UInt8} {tail : List UInt8} {c : Char}

def Completes : Lead → List UInt8 → Char → Prop
  | whole d, tail, c => d = c ∧ tail = []
  | part p, tail, c => p.Completes tail c
  | invalid, _, _ => False

theorem completes_two (h : 0xC2 ≤ b.toNat) (h' : b.toNat < 0xE0) :
    (ofByte b).Completes tail c ↔
      ∃ x, tail = [x] ∧ (0x80 ≤ x.toNat ∧ x.toNat ≤ 0xBF) ∧
        Char.ofNat ((b.toNat - 0xC0) * 64 + (x.toNat - 0x80)) = c := by
  simp only [ofByte_two h h', Completes, Unfinished.completes_last, Unfinished.allows_tail,
    Unfinished.push]

theorem completes_three (h : 0xE0 ≤ b.toNat) (h' : b.toNat < 0xF0) :
    (ofByte b).Completes tail c ↔
      ∃ x y, tail = [x, y] ∧
        (((b.toNat = 0xE0 → 0xA0 ≤ x.toNat) ∧ (b.toNat ≠ 0xE0 → 0x80 ≤ x.toNat)) ∧
          (b.toNat = 0xED → x.toNat ≤ 0x9F) ∧ (b.toNat ≠ 0xED → x.toNat ≤ 0xBF)) ∧
        (0x80 ≤ y.toNat ∧ y.toNat ≤ 0xBF) ∧
        Char.ofNat (((b.toNat - 0xE0) * 64 + (x.toNat - 0x80)) * 64 + (y.toNat - 0x80)) = c := by
  rw [ofByte_three h h', Completes, Unfinished.completes_more (by simp)]
  simp only [Unfinished.push, Unfinished.completes_last, Unfinished.allows_tail,
    Unfinished.allows_between]
  constructor
  · rintro ⟨x, _, rfl, hx, y, rfl, hy, hc⟩
    exact ⟨x, y, rfl, hx, hy, hc⟩
  · rintro ⟨x, y, rfl, hx, hy, hc⟩
    exact ⟨x, _, rfl, hx, y, rfl, hy, hc⟩

theorem completes_four (h : 0xF0 ≤ b.toNat) (h' : b.toNat < 0xF5) :
    (ofByte b).Completes tail c ↔
      ∃ x y z, tail = [x, y, z] ∧
        (((b.toNat = 0xF0 → 0x90 ≤ x.toNat) ∧ (b.toNat ≠ 0xF0 → 0x80 ≤ x.toNat)) ∧
          (b.toNat = 0xF4 → x.toNat ≤ 0x8F) ∧ (b.toNat ≠ 0xF4 → x.toNat ≤ 0xBF)) ∧
        (0x80 ≤ y.toNat ∧ y.toNat ≤ 0xBF) ∧ (0x80 ≤ z.toNat ∧ z.toNat ≤ 0xBF) ∧
        Char.ofNat ((((b.toNat - 0xF0) * 64 + (x.toNat - 0x80)) * 64 + (y.toNat - 0x80)) * 64 +
          (z.toNat - 0x80)) = c := by
  rw [ofByte_four h h', Completes, Unfinished.completes_more (by simp)]
  simp only [Unfinished.push, Unfinished.allows_between]
  constructor
  · rintro ⟨x, _, rfl, hx, hmore⟩
    rw [Unfinished.completes_more (by simp)] at hmore
    simp only [Unfinished.push, Unfinished.completes_last, Unfinished.allows_tail] at hmore
    obtain ⟨y, _, rfl, hy, z, rfl, hz, hc⟩ := hmore
    exact ⟨x, y, z, rfl, hx, hy, hz, hc⟩
  · rintro ⟨x, y, z, rfl, hx, hy, hz, hc⟩
    refine ⟨x, _, rfl, hx, ?_⟩
    rw [Unfinished.completes_more (by simp)]
    simp only [Unfinished.push, Unfinished.completes_last, Unfinished.allows_tail]
    exact ⟨y, _, rfl, hy, z, rfl, hz, hc⟩

end Lead

/-! ### Characters and their encodings -/

def ReadsAs (bytes : List UInt8) (c : Char) : Prop :=
  ∃ b tail, bytes = b :: tail ∧ (Lead.ofByte b).Completes tail c

theorem encode_ofNat {n : Nat} (h : n.isValidChar) :
    String.utf8EncodeChar (Char.ofNat n) =
      if n ≤ 127 then [UInt8.ofNat n]
      else if n ≤ 2047 then [UInt8.ofNat (n / 64 % 32 + 192), UInt8.ofNat (n % 64 + 128)]
      else if n ≤ 65535 then
        [UInt8.ofNat (n / 4096 % 16 + 224), UInt8.ofNat (n / 64 % 64 + 128),
          UInt8.ofNat (n % 64 + 128)]
      else
        [UInt8.ofNat (n / 262144 % 8 + 240), UInt8.ofNat (n / 4096 % 64 + 128),
          UInt8.ofNat (n / 64 % 64 + 128), UInt8.ofNat (n % 64 + 128)] := by
  have hval : (Char.ofNat n).val.toNat = n := by
    rw [Char.ofNat, dif_pos h]
    rfl
  rw [String.utf8EncodeChar]
  simp only [hval]

theorem ReadsAs.eq_encode {bytes : List UInt8} {c : Char} (h : ReadsAs bytes c) :
    bytes = String.utf8EncodeChar c := by
  obtain ⟨b, tail, rfl, h⟩ := h
  -- The first byte tells how many follow; each length has its own range of characters.
  rcases Nat.lt_or_ge b.toNat 0x80 with h₁ | h₁
  · rw [Lead.ofByte_one h₁] at h
    obtain ⟨hc, rfl⟩ := h
    rw [← hc, encode_ofNat (.inl (by omega)), if_pos (by omega), UInt8.ofNat_toNat]
  rcases Nat.lt_or_ge b.toNat 0xC2 with h₂ | h₂
  · simp [Lead.ofByte_invalid h₁ (.inl h₂), Lead.Completes] at h
  rcases Nat.lt_or_ge b.toNat 0xE0 with h₃ | h₃
  · obtain ⟨x, rfl, hx, hc⟩ := (Lead.completes_two h₂ h₃).1 h
    rw [← hc, encode_ofNat (.inl (by omega)), if_neg (by omega), if_pos (by omega)]
    simp only [List.cons.injEq, and_true, ← UInt8.toNat_inj, UInt8.toNat_ofNat']
    omega
  rcases Nat.lt_or_ge b.toNat 0xF0 with h₄ | h₄
  · obtain ⟨x, y, rfl, hx, hy, hc⟩ := (Lead.completes_three h₃ h₄).1 h
    rw [← hc, encode_ofNat (by unfold Nat.isValidChar; omega), if_neg (by omega), if_neg (by omega),
      if_pos (by omega)]
    simp only [List.cons.injEq, and_true, ← UInt8.toNat_inj, UInt8.toNat_ofNat']
    omega
  rcases Nat.lt_or_ge b.toNat 0xF5 with h₅ | h₅
  · obtain ⟨x, y, z, rfl, hx, hy, hz, hc⟩ := (Lead.completes_four h₄ h₅).1 h
    rw [← hc, encode_ofNat (by unfold Nat.isValidChar; omega), if_neg (by omega), if_neg (by omega),
      if_neg (by omega)]
    simp only [List.cons.injEq, and_true, ← UInt8.toNat_inj, UInt8.toNat_ofNat']
    omega
  · simp [Lead.ofByte_invalid h₁ (.inr h₅), Lead.Completes] at h

theorem readsAs_encode (c : Char) : ReadsAs (String.utf8EncodeChar c) c := by
  have hvalid : c.val.toNat.isValidChar := c.valid
  have hc : c = Char.ofNat c.val.toNat := (Char.ofNat_toNat c).symm
  generalize c.val.toNat = n at hvalid hc
  rw [hc, encode_ofNat hvalid]
  unfold Nat.isValidChar at hvalid
  split
  · have hn : (UInt8.ofNat n).toNat = n := by
      rw [UInt8.toNat_ofNat']
      omega
    refine ⟨_, [], rfl, ?_⟩
    rw [Lead.ofByte_one (by omega), hn]
    exact ⟨rfl, rfl⟩
  split
  · refine ⟨_, _, rfl, (Lead.completes_two ?_ ?_).2 ⟨_, rfl, ⟨?_, ?_⟩, congrArg Char.ofNat ?_⟩⟩ <;>
      simp only [UInt8.toNat_ofNat'] <;> omega
  split
  · refine ⟨_, _, rfl, (Lead.completes_three ?_ ?_).2 ⟨_, _, rfl, ⟨⟨?_, ?_⟩, ?_, ?_⟩,
      ⟨?_, ?_⟩, congrArg Char.ofNat ?_⟩⟩ <;>
      simp only [UInt8.toNat_ofNat'] <;> omega
  · refine ⟨_, _, rfl, (Lead.completes_four ?_ ?_).2 ⟨_, _, _, rfl, ⟨⟨?_, ?_⟩, ?_, ?_⟩,
      ⟨?_, ?_⟩, ⟨?_, ?_⟩, congrArg Char.ofNat ?_⟩⟩ <;>
      simp only [UInt8.toNat_ofNat'] <;> omega

/-! ### Whole texts -/

namespace Text

variable {n : Nat} {b : UInt8} {bytes : List UInt8} {t : Text}

/-- The bytes behind a lead give a text if some complete its character and the others give the
rest. -/
def Follows (n : Nat) (lead : Lead) (bytes : List UInt8) (t : Text) : Prop :=
  ∃ tail rest c t', bytes = tail ++ rest ∧ t = c :: t' ∧ lead.Completes tail c ∧
    decodeFrom (n + tail.length) none rest = .ok t'

theorem follows_whole (c : Char) :
    (decodeFrom n none bytes).map (c :: ·) = .ok t ↔ Follows n (.whole c) bytes t := by
  constructor
  · intro h
    cases ht : decodeFrom n none bytes with
    | error f => simp [ht, Except.map] at h
    | ok t' =>
      obtain rfl : c :: t' = t := by simpa [ht, Except.map] using h
      exact ⟨[], bytes, c, t', rfl, rfl, ⟨rfl, rfl⟩, ht⟩
  · rintro ⟨_, rest, d, t', rfl, rfl, ⟨rfl, rfl⟩, ht⟩
    rw [List.nil_append, show decodeFrom n none rest = .ok t' from ht]
    rfl

theorem decodeFrom_some (p : Unfinished) :
    decodeFrom n (some p) bytes = .ok t ↔ Follows n (.part p) bytes t := by
  induction bytes generalizing n p with
  | nil =>
    refine ⟨fun h => by simp [decodeFrom] at h, ?_⟩
    rintro ⟨tail, rest, c, t', hbytes, -, h, -⟩
    obtain ⟨rfl, -⟩ := List.append_eq_nil_iff.1 hbytes.symm
    exact h.elim
  | cons b bytes ih =>
    have hstep (tail : List UInt8) (c : Char) :
        (Lead.part p).Completes (b :: tail) c ↔ (p.next b).Completes tail c := by
      simp only [Lead.Completes, Unfinished.Completes]
      cases p.next b <;> rfl
    have hmore : Follows n (.part p) (b :: bytes) t ↔ Follows (n + 1) (p.next b) bytes t := by
      constructor
      · rintro ⟨tail, rest, c, t', hbytes, rfl, h, ht⟩
        cases tail with
        | nil => exact h.elim
        | cons d tail =>
          obtain ⟨rfl, rfl⟩ := List.cons.inj hbytes
          rw [List.length_cons, Nat.add_comm tail.length, ← Nat.add_assoc] at ht
          exact ⟨tail, rest, c, t', rfl, rfl, (hstep tail c).1 h, ht⟩
      · rintro ⟨tail, rest, c, t', rfl, rfl, h, ht⟩
        refine ⟨b :: tail, rest, c, t', rfl, rfl, (hstep tail c).2 h, ?_⟩
        rwa [List.length_cons, Nat.add_comm tail.length, ← Nat.add_assoc]
    rw [hmore, decodeFrom]
    cases p.next b with
    | whole c => exact follows_whole c
    | part q => exact ih q
    | invalid => simp [Follows, Lead.Completes]

theorem decodeFrom_none_cons :
    decodeFrom n none (b :: bytes) = .ok t ↔ Follows (n + 1) (Lead.ofByte b) bytes t := by
  rw [decodeFrom]
  cases Lead.ofByte b with
  | whole c => exact follows_whole c
  | part p => exact decodeFrom_some p
  | invalid => simp [Follows, Lead.Completes]

theorem decodeFrom_eq_ok_iff : decodeFrom n none bytes = .ok t ↔ bytes = encode t := by
  induction t generalizing n bytes with
  | nil =>
    cases bytes with
    | nil => simp [decodeFrom, encode]
    | cons b bytes => simp [decodeFrom_none_cons, Follows, encode]
  | cons c t ih =>
    have hencode : encode (c :: t) = String.utf8EncodeChar c ++ encode t := rfl
    cases bytes with
    | nil => simp [decodeFrom, hencode, String.utf8EncodeChar_ne_nil]
    | cons b bytes =>
      rw [decodeFrom_none_cons, hencode]
      constructor
      · rintro ⟨tail, rest, d, t', rfl, h, hd, ht⟩
        obtain ⟨rfl, rfl⟩ := List.cons.inj h
        have hhead := ReadsAs.eq_encode ⟨b, tail, rfl, hd⟩
        rw [← List.cons_append, hhead, ih.1 ht]
      · intro h
        obtain ⟨d, tail, hd, hc⟩ := readsAs_encode c
        rw [hd, List.cons_append] at h
        obtain ⟨rfl, rfl⟩ := List.cons.inj h
        exact ⟨tail, encode t, c, t, rfl, rfl, hc, ih.2 rfl⟩

/-- A strict reading takes the encodings of texts, and no other bytes. -/
theorem decode_eq_ok_iff : decode bytes = .ok t ↔ bytes = encode t := decodeFrom_eq_ok_iff

end Text
end PragmaAssist
