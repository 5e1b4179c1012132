import ShellWorkers.Text.Utf8

/-!
# Octets spell one text

The automaton of `Text.Utf8` reads a list of octets as a text exactly if they are the octets of
this text: it accepts what `encode` writes, and nothing else.

* `Begins`                 what the octets behind the start of a character come to;
* `eq_of_piecesOf`         octets without an ill-formed piece are those of their characters;
* `foldl_step_char`        the octets of a character are read as this character;
* `decode?_eq_some_iff`    both together.
-/

namespace ShellWorkers.Text

/-! ## one character -/

theorem val_ofNat {n : Nat} (h : n.isValidChar) : (Char.ofNat n).val.toNat = n := by
  rw [Char.ofNat, dif_pos h]
  rfl

theorem ofNat_eq_octet {n : Nat} {b : UInt8} (h : n = b.toNat) : UInt8.ofNat n = b := by
  rw [h, UInt8.ofNat_toNat]

/-- What has begun is the octets `begun`: every octet in its range ends the encoding of the
character that it comes to, or leaves one octet less to come. -/
def Begins (begun : List UInt8) (low high bits : Nat) : (more : Nat) → Prop
  | 0 => ∀ b : UInt8, low ≤ b.toNat → b.toNat ≤ high →
      String.utf8EncodeChar (Char.ofNat (bits * 64 + (b.toNat - 0x80))) = begun ++ [b]
  | more + 1 => ∀ b : UInt8, low ≤ b.toNat → b.toNat ≤ high →
      Begins (begun ++ [b]) 0x80 0xBF (bits * 64 + (b.toNat - 0x80)) more

theorem begins_two {b : UInt8} (hlow : 0xC2 ≤ b.toNat) (hhigh : b.toNat < 0xE0) :
    Begins [b] 0x80 0xBF (b.toNat - 0xC0) 0 := by
  intro b₁ hlow₁ hhigh₁
  have hvalid : ((b.toNat - 0xC0) * 64 + (b₁.toNat - 0x80)).isValidChar := .inl (by omega)
  simp only [String.utf8EncodeChar, val_ofNat hvalid]
  rw [if_neg (by omega), if_pos (by omega), ofNat_eq_octet (b := b) (by omega),
    ofNat_eq_octet (b := b₁) (by omega)]
  rfl

theorem begins_three {b : UInt8} (hlow : 0xE0 ≤ b.toNat) (hhigh : b.toNat < 0xF0) :
    Begins [b] (if b.toNat = 0xE0 then 0xA0 else 0x80) (if b.toNat = 0xED then 0x9F else 0xBF)
      (b.toNat - 0xE0) 1 := by
  intro b₁ hlow₁ hhigh₁ b₂ hlow₂ hhigh₂
  have hrange : 0x80 ≤ b₁.toNat ∧ b₁.toNat ≤ 0xBF ∧ (b.toNat = 0xE0 → 0xA0 ≤ b₁.toNat) ∧
      (b.toNat = 0xED → b₁.toNat ≤ 0x9F) := by
    split at hlow₁ <;> split at hhigh₁ <;> omega
  have hvalid : (((b.toNat - 0xE0) * 64 + (b₁.toNat - 0x80)) * 64 +
      (b₂.toNat - 0x80)).isValidChar := by
    unfold Nat.isValidChar
    omega
  simp only [String.utf8EncodeChar, val_ofNat hvalid]
  rw [if_neg (by omega), if_neg (by omega), if_pos (by omega), ofNat_eq_octet (b := b) (by omega),
    ofNat_eq_octet (b := b₁) (by omega), ofNat_eq_octet (b := b₂) (by omega)]
  rfl

theorem begins_four {b : UInt8} (hlow : 0xF0 ≤ b.toNat) (hhigh : b.toNat < 0xF5) :
    Begins [b] (if b.toNat = 0xF0 then 0x90 else 0x80) (if b.toNat = 0xF4 then 0x8F else 0xBF)
      (b.toNat - 0xF0) 2 := by
  intro b₁ hlow₁ hhigh₁ b₂ hlow₂ hhigh₂ b₃ hlow₃ hhigh₃
  have hrange : 0x80 ≤ b₁.toNat ∧ b₁.toNat ≤ 0xBF ∧ (b.toNat = 0xF0 → 0x90 ≤ b₁.toNat) ∧
      (b.toNat = 0xF4 → b₁.toNat ≤ 0x8F) := by
    split at hlow₁ <;> split at hhigh₁ <;> omega
  have hvalid : ((((b.toNat - 0xF0) * 64 + (b₁.toNat - 0x80)) * 64 + (b₂.toNat - 0x80)) * 64 +
      (b₃.toNat - 0x80)).isValidChar := by
    unfold Nat.isValidChar
    omega
  simp only [String.utf8EncodeChar, val_ofNat hvalid]
  rw [if_neg (by omega), if_neg (by omega), if_neg (by omega), ofNat_eq_octet (b := b) (by omega),
    ofNat_eq_octet (b := b₁) (by omega), ofNat_eq_octet (b := b₂) (by omega),
    ofNat_eq_octet (b := b₃) (by omega)]
  rfl

/-- what a first octet says, is so -/
def Lead.Holds (b : UInt8) : Lead → Prop
  | .char c => String.utf8EncodeChar c = [b]
  | .pending p => Begins [b] p.low p.high p.bits p.more
  | .illFormed => True

theorem lead_holds (b : UInt8) : (Lead.ofOctet b).Holds b := by
  unfold Lead.ofOctet
  simp only
  split
  · next h =>
    have hvalid : b.toNat.isValidChar := .inl (by omega)
    show String.utf8EncodeChar (Char.ofNat b.toNat) = [b]
    simp only [String.utf8EncodeChar, val_ofNat hvalid]
    rw [if_pos (by omega), UInt8.ofNat_toNat]
  split
  · trivial
  split
  · exact begins_two (by omega) (by omega)
  split
  · exact begins_three (by omega) (by omega)
  split
  · exact begins_four (by omega) (by omega)
  · trivial

/-! ## what was read -/

/-- the octets of pieces, the last piece first; an ill-formed one has none -/
def octetsOf (pieces : List (Option Char)) : List UInt8 :=
  pieces.reverse.flatMap fun piece => (piece.map String.utf8EncodeChar).getD []

theorem octetsOf_cons (c : Char) (pieces : List (Option Char)) :
    octetsOf (some c :: pieces) = octetsOf pieces ++ String.utf8EncodeChar c := by
  simp [octetsOf]

/-- The octets `bs` have been read: unless a piece is ill-formed, they are those of the pieces and
of what has begun. -/
def Decoder.HasRead (bs : List UInt8) (d : Decoder) : Prop :=
  none ∉ d.pieces →
    match d.pending with
    | none => bs = octetsOf d.pieces
    | some p => ∃ begun, Begins begun p.low p.high p.bits p.more ∧ bs = octetsOf d.pieces ++ begun

theorem hasRead_begin {bs : List UInt8} {pieces : List (Option Char)}
    (h : none ∉ pieces → bs = octetsOf pieces) (b : UInt8) :
    (Decoder.begin pieces b).HasRead (bs ++ [b]) := by
  have hlead := lead_holds b
  unfold Decoder.begin
  cases hl : Lead.ofOctet b with
  | char c =>
    rw [hl] at hlead
    intro hwell
    rw [octetsOf_cons, hlead, h fun hmem => hwell (List.mem_cons_of_mem _ hmem)]
  | pending p =>
    rw [hl] at hlead
    exact fun hwell => ⟨[b], hlead, by rw [h hwell]⟩
  | illFormed => exact fun hwell => absurd List.mem_cons_self hwell

theorem hasRead_step {bs : List UInt8} {d : Decoder} (h : d.HasRead bs) (b : UInt8) :
    (d.step b).HasRead (bs ++ [b]) := by
  obtain ⟨pieces, pending⟩ := d
  cases pending with
  | none => exact hasRead_begin h b
  | some p =>
    obtain ⟨low, high, more, bits⟩ := p
    unfold Decoder.step
    simp only
    split
    · -- what has begun is closed as ill-formed
      exact hasRead_begin (fun hwell => absurd List.mem_cons_self hwell) b
    · next hrange =>
      simp only [Bool.or_eq_true, decide_eq_true_eq, not_or, Nat.not_lt] at hrange
      cases more with
      | zero =>
        intro hwell
        obtain ⟨begun, hbegun, rfl⟩ := h fun hmem => hwell (List.mem_cons_of_mem _ hmem)
        rw [octetsOf_cons, hbegun b hrange.1 hrange.2, List.append_assoc]
      | succ more =>
        intro hwell
        obtain ⟨begun, hbegun, rfl⟩ := h hwell
        exact ⟨begun ++ [b], hbegun b hrange.1 hrange.2, List.append_assoc _ _ _⟩

theorem hasRead_foldl (more : List UInt8) {bs : List UInt8} {d : Decoder} (h : d.HasRead bs) :
    (more.foldl Decoder.step d).HasRead (bs ++ more) := by
  induction more generalizing bs d with
  | nil => rwa [List.append_nil]
  | cons b more ih =>
    rw [List.foldl_cons, List.append_cons]
    exact ih (hasRead_step h b)

/-- octets without an ill-formed piece are those of their characters -/
theorem eq_of_piecesOf {bs : List UInt8} {cs : List Char} (h : piecesOf bs = cs.map some) :
    bs = cs.flatMap String.utf8EncodeChar := by
  have hread : (bs.foldl Decoder.step ⟨[], none⟩).HasRead ([] ++ bs) :=
    hasRead_foldl bs (d := ⟨[], none⟩) fun _ => rfl
  rw [piecesOf] at h
  generalize bs.foldl Decoder.step ⟨[], none⟩ = d at h hread
  obtain ⟨pieces, pending⟩ := d
  cases pending with
  | some p =>
    have hnone : none ∈ cs.map some := by
      rw [← h]
      exact List.mem_reverse.mpr List.mem_cons_self
    simp at hnone
  | none =>
    replace h : pieces.reverse = cs.map some := h
    have hwell : none ∉ pieces := by
      rw [← List.mem_reverse, h]
      simp
    have hbs : bs = octetsOf pieces := hread hwell
    rw [hbs, octetsOf, h, List.flatMap_map]
    rfl

/-! ## what was written -/

theorem encode_append (s t : String) : encode (s ++ t) = encode s ++ encode t := by
  rw [encode, String.toList_append, List.flatMap_append]
  rfl

theorem lead_two {b : UInt8} (hlow : 0xC2 ≤ b.toNat) (hhigh : b.toNat < 0xE0) :
    Lead.ofOctet b = .pending ⟨0x80, 0xBF, 0, b.toNat - 0xC0⟩ := by
  simp only [Lead.ofOctet]
  rw [if_neg (by omega), if_neg (by omega), if_pos hhigh]

theorem lead_three {b : UInt8} (hlow : 0xE0 ≤ b.toNat) (hhigh : b.toNat < 0xF0) :
    Lead.ofOctet b = .pending ⟨if b.toNat = 0xE0 then 0xA0 else 0x80,
      if b.toNat = 0xED then 0x9F else 0xBF, 1, b.toNat - 0xE0⟩ := by
  simp only [Lead.ofOctet]
  rw [if_neg (by omega), if_neg (by omega), if_neg (by omega), if_pos hhigh]

theorem lead_four {b : UInt8} (hlow : 0xF0 ≤ b.toNat) (hhigh : b.toNat < 0xF5) :
    Lead.ofOctet b = .pending ⟨if b.toNat = 0xF0 then 0x90 else 0x80,
      if b.toNat = 0xF4 then 0x8F else 0xBF, 2, b.toNat - 0xF0⟩ := by
  simp only [Lead.ofOctet]
  rw [if_neg (by omega), if_neg (by omega), if_neg (by omega), if_neg (by omega), if_pos hhigh]

section

variable {low high bits n : Nat} (pieces : List (Option Char))

theorem step_begin {n : Nat} {p : Pending} (h : Lead.ofOctet (UInt8.ofNat n) = .pending p) :
    Decoder.step ⟨pieces, none⟩ (UInt8.ofNat n) = ⟨pieces, some p⟩ := by
  rw [Decoder.step, Decoder.begin, h]

theorem toNat_octet (h : n < 256) : (UInt8.ofNat n).toNat = n := by
  rw [UInt8.toNat_ofNat', Nat.mod_eq_of_lt h]

/-- the last octet of a character -/
theorem step_last (hlow : low ≤ n) (hhigh : n ≤ high) (hn : n < 256) :
    Decoder.step ⟨pieces, some ⟨low, high, 0, bits⟩⟩ (UInt8.ofNat n) =
      ⟨some (Char.ofNat (bits * 64 + (n - 0x80))) :: pieces, none⟩ := by
  have hrange : (decide (n < low) || decide (high < n)) = false := by
    simp only [Bool.or_eq_false_iff, decide_eq_false_iff_not]
    omega
  simp only [Decoder.step, toNat_octet hn, hrange]
  rfl

/-- an octet of a character, and more are to come -/
theorem step_more (more : Nat) (hlow : low ≤ n) (hhigh : n ≤ high) (hn : n < 256) :
    Decoder.step ⟨pieces, some ⟨low, high, more + 1, bits⟩⟩ (UInt8.ofNat n) =
      ⟨pieces, some ⟨0x80, 0xBF, more, bits * 64 + (n - 0x80)⟩⟩ := by
  have hrange : (decide (n < low) || decide (high < n)) = false := by
    simp only [Bool.or_eq_false_iff, decide_eq_false_iff_not]
    omega
  simp only [Decoder.step, toNat_octet hn, hrange]
  rfl

end

/-- the octets of a character are read as this character -/
theorem foldl_step_char (c : Char) (pieces : List (Option Char)) :
    (String.utf8EncodeChar c).foldl Decoder.step ⟨pieces, none⟩ = ⟨some c :: pieces, none⟩ := by
  have hvalid : c.val.toNat.isValidChar := c.valid
  have hc : Char.ofNat c.val.toNat = c := Char.ofNat_toNat c
  generalize hv : c.val.toNat = v at hvalid hc
  unfold Nat.isValidChar at hvalid
  simp only [String.utf8EncodeChar, hv]
  split
  · rw [List.foldl_cons, List.foldl_nil, Decoder.step, Decoder.begin, Lead.ofOctet]
    simp only [toNat_octet (show v < 256 by omega)]
    rw [if_pos (by omega), hc]
  split
  · have hfirst : (UInt8.ofNat (v / 64 % 32 + 192)).toNat = v / 64 % 32 + 192 :=
      toNat_octet (by omega)
    simp only [List.foldl_cons, List.foldl_nil]
    rw [step_begin _ (lead_two (by omega) (by omega)), hfirst,
      step_last _ (by omega) (by omega) (by omega),
      show (v / 64 % 32 + 192 - 0xC0) * 64 + (v % 64 + 128 - 0x80) = v by omega, hc]
  split
  · have hfirst : (UInt8.ofNat (v / 4096 % 16 + 224)).toNat = v / 4096 % 16 + 224 :=
      toNat_octet (by omega)
    simp only [List.foldl_cons, List.foldl_nil]
    rw [step_begin _ (lead_three (by omega) (by omega)), hfirst,
      step_more _ 0 (by split <;> omega) (by split <;> omega) (by omega),
      step_last _ (by omega) (by omega) (by omega),
      show ((v / 4096 % 16 + 224 - 0xE0) * 64 + (v / 64 % 64 + 128 - 0x80)) * 64 +
        (v % 64 + 128 - 0x80) = v by omega, hc]
  · have hfirst : (UInt8.ofNat (v / 262144 % 8 + 240)).toNat = v / 262144 % 8 + 240 :=
      toNat_octet (by omega)
    simp only [List.foldl_cons, List.foldl_nil]
    rw [step_begin _ (lead_four (by omega) (by omega)), hfirst,
      step_more _ 1 (by split <;> omega) (by split <;> omega) (by omega),
      step_more _ 0 (by omega) (by omega) (by omega), step_last _ (by omega) (by omega) (by omega),
      show (((v / 262144 % 8 + 240 - 0xF0) * 64 + (v / 4096 % 64 + 128 - 0x80)) * 64 +
        (v / 64 % 64 + 128 - 0x80)) * 64 + (v % 64 + 128 - 0x80) = v by omega, hc]

theorem foldl_step_chars (cs : List Char) (pieces : List (Option Char)) :
    (cs.flatMap String.utf8EncodeChar).foldl Decoder.step ⟨pieces, none⟩ =
      ⟨(cs.map some).reverse ++ pieces, none⟩ := by
  induction cs generalizing pieces with
  | nil => rfl
  | cons c cs ih =>
    rw [List.flatMap_cons, List.foldl_append, foldl_step_char, ih, List.map_cons,
      List.reverse_cons, List.append_assoc]
    rfl

/-- the octets of characters fall into these characters -/
theorem piecesOf_encode (s : String) : piecesOf (encode s) = s.toList.map some := by
  rw [piecesOf, encode, foldl_step_chars, List.append_nil, Decoder.close, List.reverse_reverse]

/-- the octets of a text spell it -/
theorem decode?_encode (s : String) : decode? (encode s) = some s := by
  have hall : (s.toList.map some).all Option.isSome = true := by
    rw [List.all_map, List.all_eq_true]
    exact fun _ _ => rfl
  rw [decode?, piecesOf_encode]
  show (if (s.toList.map some).all Option.isSome then _ else _) = _
  rw [if_pos hall, List.filterMap_map]
  show some (String.ofList (s.toList.filterMap some)) = some s
  rw [List.filterMap_some, String.ofList_toList]

theorem map_some_filterMap {pieces : List (Option Char)} (h : ∀ piece ∈ pieces, piece.isSome) :
    (pieces.filterMap id).map some = pieces := by
  induction pieces with
  | nil => rfl
  | cons piece pieces ih =>
    obtain ⟨hpiece, hpieces⟩ := List.forall_mem_cons.mp h
    obtain ⟨c, rfl⟩ := Option.isSome_iff_exists.mp hpiece
    show (c :: pieces.filterMap id).map some = _
    rw [List.map_cons, ih hpieces]

/-- **Octets are text exactly if they are the octets of this text.** -/
theorem decode?_eq_some_iff {bs : List UInt8} {s : String} : decode? bs = some s ↔ bs = encode s := by
  refine ⟨fun h => ?_, fun h => h ▸ decode?_encode s⟩
  unfold decode? at h
  simp only at h
  split at h
  · next hall =>
    have hpieces := map_some_filterMap (List.all_eq_true.mp hall)
    rw [eq_of_piecesOf hpieces.symm, encode, ← Option.some.inj h, String.toList_ofList]
  · exact nomatch h

end ShellWorkers.Text
