import ConnectorCatalog.Encoding.Percent
import ConnectorCatalog.Proofs.Text.Utf8

/-!
# Percent encoding is undone by decoding

Every text is read back from its escaped form (`decode?_encode`), which holds neither a slash nor the
characters that end a path (`mem_encode`).

A text that has not been escaped is read as itself exactly if it holds no `%`
(`decode?_eq_self_iff`): each `%` that is read makes the text two bytes shorter
(`size_of_decode?`).
-/

namespace ConnectorCatalog.Percent

open Text

variable {c : Char} {cs rest : List Char} {b : UInt8} {s t : String}

/-! ### Digits and bytes -/

theorem digit?_upperDigit : ∀ n < 16, digit? (upperDigit n) = some n := by decide

theorem upperDigit_cases : ∀ n < 16, 48 ≤ (upperDigit n).toNat ∧ (upperDigit n).toNat ≤ 57 ∨
    65 ≤ (upperDigit n).toNat ∧ (upperDigit n).toNat ≤ 70 := by
  decide

theorem toNat_of_digit? {n : Nat} (h : digit? c = some n) : c.toNat < 128 ∧ c ≠ '%' := by
  unfold digit? at h
  constructor
  · grind
  · rintro rfl
    cases h

theorem isUnreserved_iff : isUnreserved b = true ↔
    65 ≤ b.toNat ∧ b.toNat ≤ 90 ∨ 97 ≤ b.toNat ∧ b.toNat ≤ 122 ∨ 48 ≤ b.toNat ∧ b.toNat ≤ 57 ∨
      b.toNat = 45 ∨ b.toNat = 95 ∨ b.toNat = 46 ∨ b.toNat = 126 := by
  simp [isUnreserved, or_assoc]

theorem toNat_ofNat_byte (b : UInt8) : (Char.ofNat b.toNat).toNat = b.toNat := by
  have hlt : b.toNat < 256 := b.toNat_lt
  have hvalid : b.toNat.isValidChar := .inl (by omega)
  rw [Char.ofNat, dif_pos hvalid]
  rfl

/-! ### Escaped forms are read back -/

theorem decodeBytes?_of_ne (h : c ≠ '%') :
    decodeBytes? (c :: rest) = (decodeBytes? rest).map (String.utf8EncodeChar c ++ ·) := by
  rw [decodeBytes?.eq_3 c rest fun _ _ _ hc _ => h hc, if_neg h, utf8_singleton]
  cases decodeBytes? rest <;> rfl

theorem decodeBytes?_encodeByte (b : UInt8) (rest : List Char) :
    decodeBytes? (encodeByte b ++ rest) = (decodeBytes? rest).map (b :: ·) := by
  have hlt : b.toNat < 256 := b.toNat_lt
  unfold encodeByte
  split
  · rename_i hplain
    rw [isUnreserved_iff] at hplain
    have hchar := toNat_ofNat_byte b
    have hne : Char.ofNat b.toNat ≠ '%' := by
      intro hpercent
      rw [hpercent] at hchar
      have hvalue : ('%' : Char).toNat = 37 := rfl
      omega
    rw [List.singleton_append, decodeBytes?_of_ne hne, utf8EncodeChar_of_lt (by omega), hchar,
      UInt8.ofNat_toNat]
    rfl
  · have hvalue : b.toNat / 16 * 16 + b.toNat % 16 = b.toNat := by omega
    have hread : decodeBytes? ('%' :: upperDigit (b.toNat / 16) :: upperDigit (b.toNat % 16) ::
        rest) = (decodeBytes? rest).map (UInt8.ofNat (b.toNat / 16 * 16 + b.toNat % 16) :: ·) := by
      rw [decodeBytes?.eq_2, digit?_upperDigit _ (by omega), digit?_upperDigit _ (by omega)]
      cases decodeBytes? rest <;> rfl
    rw [hvalue, UInt8.ofNat_toNat] at hread
    exact hread

theorem decodeBytes?_encodeBytes (bytes : Bytes) : decodeBytes? (encodeBytes bytes) = some bytes := by
  induction bytes with
  | nil => rfl
  | cons b bytes ih =>
    have hcons : encodeBytes (b :: bytes) = encodeByte b ++ encodeBytes bytes := rfl
    rw [hcons, decodeBytes?_encodeByte, ih]
    rfl

/-- **Every text is read back from its escaped form.** -/
theorem decode?_encode (s : String) : decode? (encode s) = some s := by
  rw [decode?, encode, String.toList_ofList, decodeBytes?_encodeBytes]
  exact ofUtf8?_eq_some.2 rfl

/-- What is escaped holds neither a slash nor the beginning of a query or a fragment. -/
theorem mem_encode (h : c ∈ (encode s).toList) : c ≠ '/' ∧ c ≠ '?' ∧ c ≠ '#' := by
  rw [encode, String.toList_ofList, encodeBytes, List.mem_flatMap] at h
  obtain ⟨b, -, hc⟩ := h
  have hlt : b.toNat < 256 := b.toNat_lt
  have hapart (n : Nat) (hn : c.toNat = n) (h47 : n ≠ 47) (h63 : n ≠ 63) (h35 : n ≠ 35) :
      c ≠ '/' ∧ c ≠ '?' ∧ c ≠ '#' := by
    refine ⟨?_, ?_, ?_⟩ <;> rintro rfl
    · exact h47 hn.symm
    · exact h63 hn.symm
    · exact h35 hn.symm
  unfold encodeByte at hc
  split at hc
  · rename_i hplain
    rw [isUnreserved_iff] at hplain
    obtain rfl := List.mem_singleton.1 hc
    exact hapart _ (toNat_ofNat_byte b) (by omega) (by omega) (by omega)
  · simp only [List.mem_cons, List.not_mem_nil, or_false] at hc
    rcases hc with rfl | rfl | rfl
    · decide
    · have := upperDigit_cases (b.toNat / 16) (by omega)
      exact hapart _ rfl (by omega) (by omega) (by omega)
    · have := upperDigit_cases (b.toNat % 16) (by omega)
      exact hapart _ rfl (by omega) (by omega) (by omega)

/-! ### Texts that have not been escaped -/

theorem decodeBytes?_of_not_mem (h : '%' ∉ cs) :
    decodeBytes? cs = some (cs.flatMap String.utf8EncodeChar) := by
  induction cs with
  | nil => rfl
  | cons c cs ih =>
    rw [List.mem_cons, not_or] at h
    rw [decodeBytes?_of_ne (Ne.symm h.1), ih h.2]
    rfl

theorem length_of_decodeBytes? {bytes : Bytes} (h : decodeBytes? cs = some bytes) :
    bytes.length + 2 * cs.count '%' = (cs.flatMap String.utf8EncodeChar).length := by
  fun_induction decodeBytes? cs generalizing bytes with
  | case1 =>
    cases h
    rfl
  | case2 a b rest ih =>
    simp only [Option.bind_eq_bind, Option.bind_eq_some_iff, Option.pure_def, Option.some_inj] at h
    obtain ⟨high, hhigh, low, hlow, more, hmore, rfl⟩ := h
    obtain ⟨halt, hane⟩ := toNat_of_digit? hhigh
    obtain ⟨hblt, hbne⟩ := toNat_of_digit? hlow
    have hrest := ih hmore
    have hpercent : String.utf8EncodeChar '%' = [37] := by decide
    simp only [List.flatMap_cons, utf8EncodeChar_of_lt halt, utf8EncodeChar_of_lt hblt, hpercent,
      List.count_cons_self, List.count_cons_of_ne hane, List.count_cons_of_ne hbne,
      List.length_append, List.length_cons, List.length_nil]
    omega
  | case3 rest => cases h
  | case4 c rest hshape hne ih =>
    simp only [Option.bind_eq_bind, Option.bind_eq_some_iff, Option.pure_def, Option.some_inj] at h
    obtain ⟨more, hmore, rfl⟩ := h
    have hrest := ih hmore
    rw [utf8_singleton, List.flatMap_cons, List.count_cons_of_ne hne, List.length_append,
      List.length_append]
    omega

/-- Each `%` that is read makes a text two bytes shorter. -/
theorem size_of_decode? (h : decode? s = some t) :
    t.utf8ByteSize + 2 * s.toList.count '%' = s.utf8ByteSize := by
  obtain ⟨bytes, hbytes, htext⟩ := Option.bind_eq_some_iff.1 h
  obtain rfl := ofUtf8?_eq_some.1 htext
  rw [← length_utf8, ← length_utf8, length_of_decodeBytes? hbytes, utf8_eq s]

/-- **A text is read as itself exactly if there is no `%` in it.** -/
theorem decode?_eq_self_iff : decode? s = some s ↔ '%' ∉ s.toList := by
  constructor
  · intro h
    have hsize := size_of_decode? h
    exact List.count_eq_zero.1 (by omega)
  · intro h
    rw [decode?, decodeBytes?_of_not_mem h, ← utf8_eq]
    exact ofUtf8?_eq_some.2 rfl

end ConnectorCatalog.Percent
