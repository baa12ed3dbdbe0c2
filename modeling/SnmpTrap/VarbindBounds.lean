import SnmpTrap.Pdu

/-! The value parsers on any text: none panics, and what they return fits in memory. -/
namespace SnmpTrap
open Rust
set_option autoImplicit false
set_option maxHeartbeats 250000
set_option maxRecDepth 120000

/-! ## Object identifiers -/

theorem safe_parseArcs (s : String) (toks : List (List Char)) : (parseArcs s toks).Safe := by
  induction toks with
  | nil => exact Outcome.safe_ok _
  | cons tok toks ih =>
    rw [parseArcs]
    split
    · exact Outcome.safe_fail _
    · split
      · exact Outcome.safe_fail _
      · exact ih.bind fun parts _ => Outcome.safe_ok _

theorem parseArcs_length {s : String} {toks : List (List Char)} {arcs : List UInt32}
    (h : parseArcs s toks = .ok arcs) : arcs.length = toks.length := by
  induction toks generalizing arcs with
  | nil =>
    cases h
    rfl
  | cons tok toks ih =>
    rw [parseArcs] at h
    split at h
    · exact absurd h (Outcome.fail_ne_ok _ _)
    · split at h
      · exact absurd h (Outcome.fail_ne_ok _ _)
      · obtain ⟨parts, hparts, h⟩ := Outcome.bind_ok_iff.mp h
        cases h
        rw [List.length_cons, List.length_cons, ih hparts]

theorem safe_parseOid (s : String) : (parseOid s).Safe := by
  unfold parseOid
  split
  · exact Outcome.safe_fail _
  · refine (safe_parseArcs s _).bind fun parts _ => ?_
    split
    · exact Outcome.safe_fail _
    · rename_i hlen
      refine (Outcome.safe_index (by omega)).bind fun first _ => ?_
      refine (Outcome.safe_index (by omega)).bind fun second _ => ?_
      split
      · exact Outcome.safe_fail _
      · split
        · exact Outcome.safe_fail _
        · exact Outcome.safe_ok _

theorem parseOid_length {s : String} {arcs : List UInt32} (h : parseOid s = .ok arcs) :
    arcs.length ≤ (asBytes s).length + 1 := by
  unfold parseOid at h
  split at h
  · exact absurd h (Outcome.fail_ne_ok _ _)
  · obtain ⟨parts, hparts, h⟩ := Outcome.bind_ok_iff.mp h
    split at h
    · exact absurd h (Outcome.fail_ne_ok _ _)
    · obtain ⟨first, _, h⟩ := Outcome.bind_ok_iff.mp h
      obtain ⟨second, _, h⟩ := Outcome.bind_ok_iff.mp h
      split at h
      · exact absurd h (Outcome.fail_ne_ok _ _)
      · split at h
        · exact absurd h (Outcome.fail_ne_ok _ _)
        · cases h
          rw [parseArcs_length hparts]
          have hsplit := split_length_le (· == '.') (s.toList.dropWhile (· == '.'))
          have hdrop := List.length_dropWhile_le (· == '.') s.toList
          have hbytes := length_le_asBytes s
          unfold oidTokens
          omega

/-! ## Hex strings -/

theorem lt_of_isAsciiHexdigit {c : Char} (h : isAsciiHexdigit c = true) : c.toNat < 128 := by
  obtain ⟨d, hd⟩ := Option.isSome_iff_exists.mp h
  rw [toDigit_eq_some_iff] at hd
  omega

theorem utf8EncodeChar_ascii {c : Char} (h : c.toNat < 128) :
    String.utf8EncodeChar c = [UInt8.ofNat c.toNat] := by
  have hval : c.val.toNat ≤ 0x7F := Nat.lt_succ_iff.mp h
  simp only [String.utf8EncodeChar, hval, if_true]
  rfl

theorem encodeUtf8_ascii {cs : List Char} (h : ∀ c ∈ cs, c.toNat < 128) :
    ∀ b ∈ encodeUtf8 cs, b < 0x80 := by
  intro b hb
  rw [encodeUtf8, List.mem_flatMap] at hb
  obtain ⟨c, hc, hb⟩ := hb
  have hlt := h c hc
  rw [utf8EncodeChar_ascii hlt, List.mem_singleton] at hb
  rw [hb, UInt8.lt_iff_toNat_lt, UInt8.toNat_ofNat']
  have h80 : (0x80 : UInt8).toNat = 128 := rfl
  omega

theorem fromUtf8_ascii {bs : List UInt8} (h : ∀ b ∈ bs, b < 0x80) : (fromUtf8 bs).isSome := by
  induction bs with
  | nil => rfl
  | cons b bs ih =>
    rw [fromUtf8.eq_def]
    simp only [h b (by simp), if_true, Option.isSome_map]
    exact ih fun b hb => h b (by simp [hb])

theorem safe_hexBytes (raw : String) (cs : List (List UInt8))
    (h : ∀ c ∈ cs, ∀ b ∈ c, b < 0x80) : (hexBytes raw cs).Safe := by
  induction cs with
  | nil => exact Outcome.safe_ok _
  | cons c cs ih =>
    rw [hexBytes]
    refine (Outcome.safe_expect (fromUtf8_ascii (h c (by simp)))).bind fun s _ => ?_
    refine ((Outcome.safe_ofExcept _).mapErr _).bind fun byte _ => ?_
    exact (ih fun d hd => h d (by simp [hd])).bind fun out _ => Outcome.safe_ok _

theorem hexBytes_length {raw : String} {cs : List (List UInt8)} {out : List UInt8}
    (h : hexBytes raw cs = .ok out) : out.length = cs.length := by
  induction cs generalizing out with
  | nil =>
    cases h
    rfl
  | cons c cs ih =>
    obtain ⟨s, _, h⟩ := Outcome.bind_ok_iff.mp h
    obtain ⟨byte, _, h⟩ := Outcome.bind_ok_iff.mp h
    obtain ⟨out', hout, h⟩ := Outcome.bind_ok_iff.mp h
    cases h
    rw [List.length_cons, List.length_cons, ih hout]

/-- After the check for hex digits every two-byte chunk is a `str`. -/
theorem safe_parseHexString (raw : String) : (parseHexString raw).Safe := by
  unfold parseHexString
  simp only
  split
  · exact Outcome.safe_ok _
  · split
    · exact Outcome.safe_fail _
    · rename_i hnone
      split
      · exact Outcome.safe_fail _
      · refine safe_hexBytes raw _ fun c hc b hb => ?_
        refine encodeUtf8_ascii (fun d hd => ?_) b (mem_of_mem_chunks 2 _ c hc b hb)
        have hhex := List.find?_eq_none.mp hnone d hd
        exact lt_of_isAsciiHexdigit (by simpa using hhex)

/-- At most one prefix goes. -/
theorem stripHexPrefix_cases (cs : List Char) :
    cs = stripHexPrefix cs ∨ cs = '0' :: 'x' :: stripHexPrefix cs ∨
      cs = '0' :: 'X' :: stripHexPrefix cs := by
  unfold stripHexPrefix
  cases h : stripPrefix ['0', 'x'] cs with
  | some rest => exact Or.inr (Or.inl (stripPrefix_eq_some_iff.mp h))
  | none =>
    cases h' : stripPrefix ['0', 'X'] cs with
    | some rest => exact Or.inr (Or.inr (stripPrefix_eq_some_iff.mp h'))
    | none => exact Or.inl rfl

theorem stripHexPrefix_sublist (cs : List Char) : (stripHexPrefix cs).Sublist cs := by
  obtain h | h | h := stripHexPrefix_cases cs
  · rw [← h]
  · conv_rhs => rw [h]
    exact (List.sublist_cons_self 'x' _).cons '0'
  · conv_rhs => rw [h]
    exact (List.sublist_cons_self 'X' _).cons '0'

theorem encodeUtf8_length_le {cs ds : List Char} (h : cs.Sublist ds) :
    (encodeUtf8 cs).length ≤ (encodeUtf8 ds).length :=
  (h.flatMap _).length_le

theorem parseHexString_length {raw : String} {bytes : List UInt8}
    (h : parseHexString raw = .ok bytes) : bytes.length ≤ (asBytes raw).length := by
  unfold parseHexString at h
  simp only at h
  split at h
  · cases h
    exact Nat.zero_le _
  · split at h
    · exact absurd h (Outcome.fail_ne_ok _ _)
    · split at h
      · exact absurd h (Outcome.fail_ne_ok _ _)
      · rw [hexBytes_length h]
        refine (chunks_length_le 2 _).trans (encodeUtf8_length_le ?_)
        exact List.filter_sublist.trans ((stripHexPrefix_sublist _).trans (trim_sublist _))

/-! ## BITS -/

theorem setBit_ok {out out' : List UInt8} {p : UInt32} (h : setBit out p = .ok out') :
    out'.length = out.length := by
  obtain ⟨byte, _, h⟩ := Outcome.bind_ok_iff.mp h
  cases h
  exact List.length_set

theorem setBits_length {out out' : List UInt8} {ps : List UInt32}
    (h : setBits out ps = .ok out') : out'.length = out.length := by
  induction ps generalizing out with
  | nil =>
    cases h
    rfl
  | cons p ps ih =>
    obtain ⟨next, hnext, h⟩ := Outcome.bind_ok_iff.mp h
    rw [ih h, setBit_ok hnext]

theorem exists_setBits (out : List UInt8) (ps : List UInt32)
    (h : ∀ p ∈ ps, p.toNat / 8 < out.length) : ∃ out', setBits out ps = .ok out' := by
  induction ps generalizing out with
  | nil => exact ⟨out, rfl⟩
  | cons p ps ih =>
    have hbyte := Outcome.index_eq_ok (ε := String) (h p (by simp))
    obtain ⟨next, hnext⟩ : ∃ next, setBit out p = .ok next :=
      ⟨_, Outcome.bind_ok_iff.mpr ⟨_, hbyte, rfl⟩⟩
    obtain ⟨out', hout'⟩ := ih next fun q hq => by
      rw [setBit_ok hnext]
      exact h q (by simp [hq])
    exact ⟨out', Outcome.bind_ok_iff.mpr ⟨next, hnext, hout'⟩⟩

instance instLawfulOrderSupUInt32 : Std.LawfulOrderSup UInt32 where
  max_le_iff a b c := by
    change (if a ≤ b then b else a) ≤ c ↔ a ≤ c ∧ b ≤ c
    simp only [UInt32.le_iff_toNat_le]
    split <;> omega

/-- The vector is as long as the greatest position needs. -/
theorem safe_parseBits (raw : String) : (parseBits raw).Safe := by
  unfold parseBits
  split
  · exact Outcome.safe_ok _
  · refine ((Outcome.safe_ofExcept _).mapErr _).bind fun positions _ => ?_
    split
    · exact Outcome.safe_ok _
    · rename_i hne
      refine (Outcome.safe_expect (List.isSome_max?_iff.mpr hne)).bind fun max hmax => ?_
      split
      · exact Outcome.safe_fail _
      · obtain ⟨out, hout⟩ := exists_setBits (List.replicate (max.toNat / 8 + 1) 0) positions (by
          intro p hp
          have hle := (List.max?_le_iff (Outcome.expect_ok_iff.mp hmax)).mp (UInt32.le_refl _) p hp
          rw [UInt32.le_iff_toNat_le] at hle
          rw [List.length_replicate]
          omega)
        rw [hout]
        exact Outcome.safe_ok _

theorem parseBits_length {raw : String} {bytes : List UInt8} (h : parseBits raw = .ok bytes) :
    bytes.length ≤ 8192 := by
  unfold parseBits at h
  split at h
  · cases h
    exact Nat.zero_le _
  · obtain ⟨positions, _, h⟩ := Outcome.bind_ok_iff.mp h
    split at h
    · cases h
      exact Nat.zero_le _
    · obtain ⟨max, _, h⟩ := Outcome.bind_ok_iff.mp h
      split at h
      · exact absurd h (Outcome.fail_ne_ok _ _)
      · rename_i hmax
        rw [UInt32.lt_iff_toNat_lt] at hmax
        have hposition : maxBitPosition.toNat = 65535 := rfl
        rw [setBits_length h, List.length_replicate]
        omega

/-! ## Typed values -/

theorem safe_parseNumber {α : Type} (letter : Char) (kind raw : String)
    (r : Except IntErrorKind α) : (parseNumber letter kind raw r).Safe :=
  ((Outcome.safe_ofExcept r).mapErr _).mapErr _

theorem safe_parseTypedValue (letter : Char) (raw : String) :
    (parseTypedValue letter raw).Safe := by
  unfold parseTypedValue
  split
  · exact (safe_parseNumber _ _ _ _).map _
  · exact (safe_parseNumber _ _ _ _).map _
  · exact (safe_parseNumber _ _ _ _).map _
  · split
    · exact Outcome.safe_ok _
    · exact Outcome.safe_fail _
  · exact ((safe_parseOid raw).mapErr _).map _
  · exact Outcome.safe_ok _
  · exact ((safe_parseHexString raw).mapErr _).map _
  · exact Outcome.safe_ok _
  · exact ((safe_parseBits raw).mapErr _).map _
  · exact (safe_parseNumber _ _ _ _).map _
  · exact Outcome.safe_fail _

theorem parseTypedValue_inMemory {letter : Char} {raw : String} {v : VarBindValue}
    (hraw : (asBytes raw).length < 2 ^ 63) (h : parseTypedValue letter raw = .ok v) :
    v.InMemory := by
  unfold parseTypedValue at h
  split at h
  · obtain ⟨i, _, rfl⟩ := Outcome.map_ok_iff.mp h
    trivial
  · obtain ⟨u, _, rfl⟩ := Outcome.map_ok_iff.mp h
    trivial
  · obtain ⟨t, _, rfl⟩ := Outcome.map_ok_iff.mp h
    trivial
  · split at h
    · cases h
      trivial
    · exact absurd h (Outcome.fail_ne_ok _ _)
  · obtain ⟨arcs, harcs, rfl⟩ := Outcome.map_ok_iff.mp h
    have hlen := parseOid_length (Outcome.mapErr_ok_iff.mp harcs)
    change arcs.length < 2 ^ 64
    omega
  · cases h
    change (asBytes raw).length < 2 ^ 64
    omega
  · obtain ⟨bytes, hbytes, rfl⟩ := Outcome.map_ok_iff.mp h
    have hlen := parseHexString_length (Outcome.mapErr_ok_iff.mp hbytes)
    change bytes.length < 2 ^ 64
    omega
  · cases h
    trivial
  · obtain ⟨bytes, hbytes, rfl⟩ := Outcome.map_ok_iff.mp h
    have hlen := parseBits_length (Outcome.mapErr_ok_iff.mp hbytes)
    change bytes.length < 2 ^ 64
    omega
  · obtain ⟨n, _, rfl⟩ := Outcome.map_ok_iff.mp h
    trivial
  · exact absurd h (Outcome.fail_ne_ok _ _)

end SnmpTrap
