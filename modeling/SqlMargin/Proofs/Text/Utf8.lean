import Mathlib.Tactic.SplitIfs
import SqlMargin.Proofs.Outcome
import SqlMargin.Text.Utf8

/-! UTF-8 there and back: bytes that can be decoded are the encoding of the text they decode to,
different texts have different bytes, and every text is decoded from its bytes. -/
namespace SqlMargin.Text.Utf8

/-- The bytes of a character that is given by its number. -/
lemma utf8EncodeChar_ofNat {n : Nat} (h : n.isValidChar) :
    String.utf8EncodeChar (Char.ofNat n) =
      if n ≤ 0x7f then [.ofNat n]
      else if n ≤ 0x7ff then [.ofNat (n / 64 % 32 + 0xc0), .ofNat (n % 64 + 0x80)]
      else if n ≤ 0xffff then
        [.ofNat (n / 4096 % 16 + 0xe0), .ofNat (n / 64 % 64 + 0x80), .ofNat (n % 64 + 0x80)]
      else
        [.ofNat (n / 262144 % 8 + 0xf0), .ofNat (n / 4096 % 64 + 0x80),
          .ofNat (n / 64 % 64 + 0x80), .ofNat (n % 64 + 0x80)] := by
  have hval : (Char.ofNat n).val.toNat = n := by
    rw [Char.ofNat, dif_pos h]
    rfl
  unfold String.utf8EncodeChar
  rw [hval]

lemma ofNat_eq {b : UInt8} {n : Nat} (h : n = b.toNat) : UInt8.ofNat n = b := by
  rw [h, UInt8.ofNat_toNat]

lemma encode_two {a b : UInt8} (ha : 0xC2 ≤ a.toNat ∧ a.toNat < 0xE0)
    (hb : 0x80 ≤ b.toNat ∧ b.toNat ≤ 0xBF) :
    String.utf8EncodeChar (Char.ofNat (64 * (a.toNat - 0xC0) + (b.toNat - 0x80))) = [a, b] := by
  rw [utf8EncodeChar_ofNat (.inl (by omega)), if_neg (by omega), if_pos (by omega),
    ofNat_eq (b := a) (by omega), ofNat_eq (b := b) (by omega)]

/-- Three bytes. The first and the second one together leave out what two bytes can hold, and the
surrogates. -/
lemma encode_three {a b c : UInt8} (ha : 0xE0 ≤ a.toNat ∧ a.toNat < 0xF0)
    (hb : 0x80 ≤ b.toNat ∧ b.toNat ≤ 0xBF) (hc : 0x80 ≤ c.toNat ∧ c.toNat ≤ 0xBF)
    (hlong : a.toNat = 0xE0 → 0xA0 ≤ b.toNat) (hpair : a.toNat = 0xED → b.toNat ≤ 0x9F) :
    String.utf8EncodeChar (Char.ofNat
      (64 * (64 * (a.toNat - 0xE0) + (b.toNat - 0x80)) + (c.toNat - 0x80))) = [a, b, c] := by
  have hvalid :
      (64 * (64 * (a.toNat - 0xE0) + (b.toNat - 0x80)) + (c.toNat - 0x80)).isValidChar := by
    unfold Nat.isValidChar
    omega
  rw [utf8EncodeChar_ofNat hvalid, if_neg (by omega), if_neg (by omega), if_pos (by omega),
    ofNat_eq (b := a) (by omega), ofNat_eq (b := b) (by omega), ofNat_eq (b := c) (by omega)]

/-- Four bytes. The first and the second one together leave out what three bytes can hold, and what
lies past the last character. -/
lemma encode_four {a b c d : UInt8} (ha : 0xF0 ≤ a.toNat ∧ a.toNat ≤ 0xF4)
    (hb : 0x80 ≤ b.toNat ∧ b.toNat ≤ 0xBF) (hc : 0x80 ≤ c.toNat ∧ c.toNat ≤ 0xBF)
    (hd : 0x80 ≤ d.toNat ∧ d.toNat ≤ 0xBF) (hlong : a.toNat = 0xF0 → 0x90 ≤ b.toNat)
    (hlast : a.toNat = 0xF4 → b.toNat ≤ 0x8F) :
    String.utf8EncodeChar (Char.ofNat
      (64 * (64 * (64 * (a.toNat - 0xF0) + (b.toNat - 0x80)) + (c.toNat - 0x80)) +
        (d.toNat - 0x80))) = [a, b, c, d] := by
  have hvalid : (64 * (64 * (64 * (a.toNat - 0xF0) + (b.toNat - 0x80)) + (c.toNat - 0x80)) +
      (d.toNat - 0x80)).isValidChar := by
    unfold Nat.isValidChar
    omega
  rw [utf8EncodeChar_ofNat hvalid, if_neg (by omega), if_neg (by omega), if_neg (by omega),
    ofNat_eq (b := a) (by omega), ofNat_eq (b := b) (by omega), ofNat_eq (b := c) (by omega),
    ofNat_eq (b := d) (by omega)]

/-- The bytes read so far begin a character: with as many more as are missing, the first of them
within bounds, they are its encoding. -/
def Begins : Nat → Nat → Nat → Nat → List UInt8 → Prop
  | 0, _, _, bits, read => String.utf8EncodeChar (Char.ofNat bits) = read
  | missing + 1, low, high, bits, read => ∀ b : UInt8, low ≤ b.toNat → b.toNat ≤ high →
    Begins missing 0x80 0xBF (64 * bits + (b.toNat - 0x80)) (read ++ [b])

lemma begins_of_begin? {pos : Nat} {a : UInt8} {p : Pending} (h : begin? pos a = some p) :
    0 < p.missing ∧ Begins p.missing p.low p.high p.bits [a] := by
  unfold begin? at h
  dsimp only at h
  split_ifs at h with h₁ h₂ h₃ h₄ h₅ h₆ h₇ h₈
  all_goals
    obtain rfl := Option.some.inj h
    refine ⟨Nat.succ_pos _, ?_⟩
    dsimp only [Begins]
  · intro b hb hb'
    exact encode_two (by omega) ⟨hb, hb'⟩
  · intro b hb hb' c hc hc'
    have he := encode_three (a := a) (b := b) (by omega) (by omega) ⟨hc, hc'⟩ (by omega) (by omega)
    rwa [h₃] at he
  · intro b hb hb' c hc hc'
    have he := encode_three (a := a) (b := b) (by omega) (by omega) ⟨hc, hc'⟩ (by omega) (by omega)
    rwa [h₄] at he
  · intro b hb hb' c hc hc'
    exact encode_three (by omega) ⟨hb, hb'⟩ ⟨hc, hc'⟩ (by omega) (by omega)
  · intro b hb hb' c hc hc' d hd hd'
    have he := encode_four (a := a) (b := b) (by omega) (by omega) ⟨hc, hc'⟩ ⟨hd, hd'⟩ (by omega)
      (by omega)
    rwa [h₆] at he
  · intro b hb hb' c hc hc' d hd hd'
    exact encode_four (by omega) ⟨hb, hb'⟩ ⟨hc, hc'⟩ ⟨hd, hd'⟩ (by omega) (by omega)
  · intro b hb hb' c hc hc' d hd hd'
    have he := encode_four (a := a) (b := b) (by omega) (by omega) ⟨hc, hc'⟩ ⟨hd, hd'⟩ (by omega)
      (by omega)
    rwa [h₈] at he

/-- A character that is pending, and the bytes of it that were read. -/
def Reads (read : List UInt8) : Option Pending → Prop
  | none => read = []
  | some p => 0 < p.missing ∧ Begins p.missing p.low p.high p.bits read

/-- A character is complete with byte `b`, and the rest is decoded by itself. -/
lemma encode_of_complete {pos : Nat} {b : UInt8} {read rest : List UInt8} {t : List Char} {c : Char}
    (hc : String.utf8EncodeChar c = read ++ [b])
    (hrest : ∀ u, decodeFrom pos none rest = .ok u → encode u = rest)
    (h : (c :: ·) <$> decodeFrom pos none rest = .ok t) : encode t = read ++ b :: rest := by
  obtain ⟨u, hu, rfl⟩ := exists_of_map_eq_ok h
  rw [encode, List.flatMap_cons, hc]
  change _ ++ encode u = _
  rw [hrest u hu, List.append_assoc]
  rfl

/-- Decoding goes over the bytes one by one; those of a pending character come first. -/
lemma encode_of_decodeFrom {pos : Nat} {pending : Option Pending} {bytes read : List UInt8}
    {t : List Char} (hr : Reads read pending) (h : decodeFrom pos pending bytes = .ok t) :
    encode t = read ++ bytes := by
  induction bytes generalizing pos pending read t with
  | nil =>
    cases pending with
    | some p => cases h
    | none =>
      cases h
      rw [show read = [] from hr]
      rfl
  | cons b rest ih =>
    have hdone : ∀ u, decodeFrom (pos + 1) none rest = .ok u → encode u = rest := by
      intro u hu
      have hnone : Reads [] none := rfl
      exact ih hnone hu
    cases pending with
    | none =>
      have hnil : read = [] := hr
      subst hnil
      rw [decodeFrom] at h
      split at h
      · next hb =>
        refine encode_of_complete ?_ hdone h
        rw [utf8EncodeChar_ofNat (.inl (by omega)), if_pos (by omega), UInt8.ofNat_toNat]
        rfl
      · cases hbegin : begin? pos b with
        | none =>
          rw [hbegin] at h
          cases h
        | some p =>
          rw [hbegin] at h
          have hbegun : Reads [b] (some p) := begins_of_begin? hbegin
          exact ih hbegun h
    | some p =>
      obtain ⟨hmissing, hbegins⟩ := hr
      rw [decodeFrom] at h
      split at h
      · cases h
      · next hb =>
        rw [Bool.or_eq_true, decide_eq_true_eq, decide_eq_true_eq, not_or] at hb
        obtain ⟨n, hn⟩ := Nat.exists_eq_add_of_lt hmissing
        rw [Nat.zero_add] at hn
        rw [hn] at hbegins
        have hnext := hbegins b (by omega) (by omega)
        dsimp only at h
        split at h
        · have hzero : n = 0 := by omega
          subst hzero
          exact encode_of_complete hnext hdone h
        · have hbegun : Reads (read ++ [b]) (some { p with
              missing := p.missing - 1, low := 0x80, high := 0xBF,
              bits := 64 * p.bits + (b.toNat - 0x80) }) := by
            refine ⟨by dsimp only; omega, ?_⟩
            rwa [hn, Nat.add_sub_cancel]
          have hrest := ih hbegun h
          rwa [List.append_assoc] at hrest

/-- Bytes that decode to a text are its encoding. -/
theorem encode_of_decode {bytes : List UInt8} {t : List Char} (h : decode bytes = .ok t) :
    encode t = bytes :=
  have hnone : Reads [] none := rfl
  encode_of_decodeFrom hnone h

/-- Different texts have different bytes. -/
theorem encode_injective : Function.Injective encode := by
  intro s t h
  have hbytes : (String.ofList s).toByteArray = (String.ofList t).toByteArray :=
    congrArg List.toByteArray h
  exact String.ofList_injective (String.toByteArray_inj.1 hbytes)

/-! Encoded characters are decoded. -/

section Encoded

variable {pos : Nat} {p : Pending} {a b : UInt8} (rest : List UInt8)

lemma decodeFrom_begin (ha : 0x80 ≤ a.toNat) (hp : begin? pos a = some p) :
    decodeFrom pos none (a :: rest) = decodeFrom (pos + 1) (some p) rest := by
  rw [decodeFrom, if_neg (by omega), hp]

lemma decodeFrom_next (hb : p.low ≤ b.toNat ∧ b.toNat ≤ p.high) (hmissing : 1 < p.missing) :
    decodeFrom pos (some p) (b :: rest) = decodeFrom (pos + 1) (some { p with
      missing := p.missing - 1, low := 0x80, high := 0xBF,
      bits := 64 * p.bits + (b.toNat - 0x80) }) rest := by
  rw [decodeFrom, if_neg (by simpa using hb)]
  exact if_neg (by omega)

lemma decodeFrom_last {n : Nat} (hb : p.low ≤ b.toNat ∧ b.toNat ≤ p.high)
    (hmissing : p.missing = 1) (hbits : 64 * p.bits + (b.toNat - 0x80) = n) :
    decodeFrom pos (some p) (b :: rest) =
      (Char.ofNat n :: ·) <$> decodeFrom (pos + 1) none rest := by
  rw [decodeFrom, if_neg (by simpa using hb), ← hbits]
  exact if_pos (by omega)

lemma begin?_two (pos : Nat) (ha : 0xC2 ≤ a.toNat ∧ a.toNat < 0xE0) :
    begin? pos a = some ⟨a, pos, 1, 0x80, 0xBF, a.toNat - 0xC0⟩ := by
  unfold begin?
  dsimp only
  rw [if_neg (by omega), if_pos ha.2]

lemma begin?_three (pos : Nat) (ha : 0xE0 ≤ a.toNat ∧ a.toNat < 0xF0)
    (hb : 0x80 ≤ b.toNat ∧ b.toNat ≤ 0xBF) (hlong : a.toNat = 0xE0 → 0xA0 ≤ b.toNat)
    (hpair : a.toNat = 0xED → b.toNat ≤ 0x9F) :
    ∃ low high, begin? pos a = some ⟨a, pos, 2, low, high, a.toNat - 0xE0⟩ ∧
      low ≤ b.toNat ∧ b.toNat ≤ high := by
  unfold begin?
  dsimp only
  rw [if_neg (by omega), if_neg (by omega), if_pos ha.2]
  split_ifs with h₁ h₂
  · exact ⟨_, _, by rw [h₁], hlong h₁, hb.2⟩
  · exact ⟨_, _, by rw [h₂], hb.1, hpair h₂⟩
  · exact ⟨_, _, rfl, hb⟩

lemma begin?_four (pos : Nat) (ha : 0xF0 ≤ a.toNat ∧ a.toNat ≤ 0xF4)
    (hb : 0x80 ≤ b.toNat ∧ b.toNat ≤ 0xBF) (hlong : a.toNat = 0xF0 → 0x90 ≤ b.toNat)
    (hlast : a.toNat = 0xF4 → b.toNat ≤ 0x8F) :
    ∃ low high, begin? pos a = some ⟨a, pos, 3, low, high, a.toNat - 0xF0⟩ ∧
      low ≤ b.toNat ∧ b.toNat ≤ high := by
  unfold begin?
  dsimp only
  rw [if_neg (by omega), if_neg (by omega), if_neg (by omega), if_neg (by omega),
    if_neg (by omega)]
  split_ifs with h₁ h₂ h₃
  · exact ⟨_, _, by rw [h₁], hlong h₁, hb.2⟩
  · exact ⟨_, _, rfl, hb⟩
  · exact ⟨_, _, by rw [h₃], hb.1, hlast h₃⟩
  · omega

end Encoded

/-- The bytes of a character are taken up whole, whatever follows. -/
lemma decodeFrom_utf8EncodeChar (pos : Nat) (c : Char) (rest : List UInt8) :
    ∃ pos', decodeFrom pos none (String.utf8EncodeChar c ++ rest) =
      (c :: ·) <$> decodeFrom pos' none rest := by
  obtain ⟨n, hn, rfl⟩ : ∃ n, n.isValidChar ∧ c = Char.ofNat n :=
    ⟨c.toNat, c.valid, (Char.ofNat_toNat c).symm⟩
  have hbyte : ∀ m, m < 256 → (UInt8.ofNat m).toNat = m := fun m hm =>
    UInt8.toNat_ofNat_of_lt hm
  have hvalid := hn
  unfold Nat.isValidChar at hvalid
  rw [utf8EncodeChar_ofNat hn]
  split_ifs with h₁ h₂ h₃
  · refine ⟨pos + 1, ?_⟩
    rw [List.singleton_append, decodeFrom, hbyte n (by omega), if_pos (by omega)]
  · have ha := hbyte (n / 64 % 32 + 0xc0) (by omega)
    have hb := hbyte (n % 64 + 0x80) (by omega)
    refine ⟨pos + 2, ?_⟩
    rw [List.cons_append, List.singleton_append,
      decodeFrom_begin _ (by omega) (begin?_two pos (by omega)),
      decodeFrom_last (n := n) _ (by dsimp only; omega) rfl (by dsimp only; omega)]
  · have ha := hbyte (n / 4096 % 16 + 0xe0) (by omega)
    have hb := hbyte (n / 64 % 64 + 0x80) (by omega)
    have hc := hbyte (n % 64 + 0x80) (by omega)
    obtain ⟨low, high, hbegin, hin⟩ := begin?_three (a := .ofNat (n / 4096 % 16 + 0xe0))
      (b := .ofNat (n / 64 % 64 + 0x80)) pos (by omega) (by omega) (by omega) (by omega)
    refine ⟨pos + 3, ?_⟩
    rw [List.cons_append, List.cons_append, List.singleton_append,
      decodeFrom_begin _ (by omega) hbegin, decodeFrom_next _ hin (by dsimp only; omega),
      decodeFrom_last (n := n) _ (by dsimp only; omega) rfl (by dsimp only; omega)]
  · have ha := hbyte (n / 262144 % 8 + 0xf0) (by omega)
    have hb := hbyte (n / 4096 % 64 + 0x80) (by omega)
    have hc := hbyte (n / 64 % 64 + 0x80) (by omega)
    have hd := hbyte (n % 64 + 0x80) (by omega)
    obtain ⟨low, high, hbegin, hin⟩ := begin?_four (a := .ofNat (n / 262144 % 8 + 0xf0))
      (b := .ofNat (n / 4096 % 64 + 0x80)) pos (by omega) (by omega) (by omega) (by omega)
    refine ⟨pos + 4, ?_⟩
    rw [List.cons_append, List.cons_append, List.cons_append, List.singleton_append,
      decodeFrom_begin _ (by omega) hbegin, decodeFrom_next _ hin (by dsimp only; omega),
      decodeFrom_next _ (by dsimp only; omega) (by dsimp only; omega),
      decodeFrom_last (n := n) _ (by dsimp only; omega) rfl (by dsimp only; omega)]

/-- The encoding of a text decodes to it. -/
theorem decode_encode (t : List Char) : decode (encode t) = .ok t := by
  have hfrom : ∀ pos, decodeFrom pos none (encode t) = .ok t := by
    induction t with
    | nil => exact fun _ => rfl
    | cons c t ih =>
      intro pos
      obtain ⟨pos', hc⟩ := decodeFrom_utf8EncodeChar pos c (encode t)
      rw [encode, List.flatMap_cons]
      exact hc.trans (by rw [ih pos']; rfl)
  exact hfrom 0

end SqlMargin.Text.Utf8
