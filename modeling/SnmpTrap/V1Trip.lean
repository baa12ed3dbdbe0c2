import SnmpTrap.V2cTrip

/-! v1 traps on the wire: which of them `build_v1_trap` encodes, and what a receiver reads. -/
namespace SnmpTrap
open Rust Ber
set_option autoImplicit false
set_option maxHeartbeats 250000
set_option maxRecDepth 120000

/-! ## Values -/

/-- The SMIv1 value a receiver gets, where SMIv1 has the type. -/
def VarBindValue.smiV1 : VarBindValue → Option Grammar.SmiV1
  | .integer i => some (.number i.toInt)
  | .unsigned32 u => some (.gauge u)
  | .timeTicks t => some (.ticks t)
  | .ipAddress ip => some (.address ip)
  | .objectId arcs => some (.object arcs)
  | .octetString bytes => some (.string bytes)
  | .null => some .empty
  | .bits _ => none
  | .counter64 _ => none

theorem readSmiV1_v1Value {v : VarBindValue} {value : SmiV1.ObjectSyntax} (hv : v.Representable)
    (h : v1Value v = .ok value) :
    Grammar.readSmiV1 (value.toValue.tlv oidOctets) = v.smiV1 := by
  cases v with
  | integer i =>
    cases h
    have hread : Grammar.readSmiV1 (.primitive .integer (integerOctets i.toInt)) =
        (readInteger (integerOctets i.toInt)).map .number := rfl
    rw [readInteger_integerOctets] at hread
    exact hread
  | unsigned32 u =>
    cases h
    have hread : Grammar.readSmiV1 (.primitive SmiV1.gaugeTag (integerOctets u.toNat)) =
        ((readInteger (integerOctets u.toNat)).bind toUInt32).map .gauge := rfl
    rw [readInteger_integerOctets, Option.bind_some, toUInt32_toNat] at hread
    exact hread
  | timeTicks t =>
    cases h
    have hread : Grammar.readSmiV1 (.primitive SmiV1.timeTicksTag (integerOctets t.toNat)) =
        ((readInteger (integerOctets t.toNat)).bind toUInt32).map .ticks := rfl
    rw [readInteger_integerOctets, Option.bind_some, toUInt32_toNat] at hread
    exact hread
  | ipAddress ip =>
    cases h
    rfl
  | objectId arcs =>
    cases h
    have hread : Grammar.readSmiV1 (.primitive .objectIdentifier (oidOctets arcs)) =
        (readOid (oidOctets arcs)).map .object := rfl
    rw [readOid_oidOctets arcs hv] at hread
    exact hread
  | octetString bytes =>
    cases h
    rfl
  | null =>
    cases h
    rfl
  | bits bytes => exact absurd h (Outcome.fail_ne_ok _ _)
  | counter64 n => exact absurd h (Outcome.fail_ne_ok _ _)

/-- The two tables differ in their types but not in the values encoded. -/
theorem v1Value_toValue {v : VarBindValue} {value : SmiV1.ObjectSyntax} (h : v1Value v = .ok value) :
    value.toValue = (v2Value v).toValue := by
  cases v with
  | bits bytes => exact absurd h (Outcome.fail_ne_ok _ _)
  | counter64 n => exact absurd h (Outcome.fail_ne_ok _ _)
  | _ =>
    cases h
    rfl

theorem v1Value_oids {v : VarBindValue} {value : SmiV1.ObjectSyntax} (hv : v.Representable)
    (h : v1Value v = .ok value) : value.toValue.Oids Ber.Representable := by
  cases v <;> cases h <;> first | exact trivial | exact hv

theorem v1Value_within {v : VarBindValue} {value : SmiV1.ObjectSyntax} (hmem : v.InMemory)
    (hv : v.Representable) (h : v1Value v = .ok value) :
    value.toValue.Within oidOctets (2 ^ 68) := by
  rw [v1Value_toValue h]
  exact v2Value_within v hmem hv

/-! ## The trap -/

def V1Trap.Representable (t : V1Trap) : Prop :=
  Ber.Representable t.enterprise ∧ BindingsRepresentable t.varbinds

instance : DecidablePred V1Trap.Representable := fun t =>
  inferInstanceAs (Decidable (Ber.Representable t.enterprise ∧ BindingsRepresentable t.varbinds))

def V1Trap.pdu (t : V1Trap) (bindings : List SnmpV1.VarBind) : SnmpV1.Trap :=
  { enterprise := t.enterprise
    agentAddr := .internet ⟨.ofIpv4 t.agentAddr⟩
    genericTrap := t.generic.toInt
    specificTrap := t.specific.toInt
    timeStamp := ⟨t.uptimeCentiseconds⟩
    variableBindings := bindings }

def V1Trap.messageValue (t : V1Trap) (bindings : List SnmpV1.VarBind) : Value :=
  CommunityMessage.toValue SnmpV1.Trap.toValue ⟨0, t.community, t.pdu bindings⟩

theorem buildV1Trap_eq (r : Encoder) (t : V1Trap) :
    buildV1Trap r t = (t.varbinds.mapM fun vb => makeV1Varbind vb.1 vb.2) >>= fun bindings =>
      encode r (t.messageValue bindings) := by
  rw [buildV1Trap, v1Message]
  cases t.varbinds.mapM fun vb => makeV1Varbind vb.1 vb.2 <;> rfl

theorem makeV1Varbind_ok {vb : List UInt32 × VarBindValue} {made : SnmpV1.VarBind}
    (h : makeV1Varbind vb.1 vb.2 = .ok made) : made.name = vb.1 ∧ v1Value vb.2 = .ok made.value := by
  obtain ⟨value, hvalue, h⟩ := Outcome.bind_ok_iff.mp h
  cases h
  exact ⟨rfl, hvalue⟩

section Bindings
variable {vbs : List (List UInt32 × VarBindValue)} {bindings : List SnmpV1.VarBind}
  (h : List.Forall₂ (fun vb made => makeV1Varbind vb.1 vb.2 = .ok made) vbs bindings)
include h

theorem exists_of_mem_bindings {made : SnmpV1.VarBind} (hmade : made ∈ bindings) :
    ∃ vb ∈ vbs, made.name = vb.1 ∧ v1Value vb.2 = .ok made.value := by
  induction h with
  | nil => cases hmade
  | cons hhead _ ih =>
    rename_i vb made' vbs' bindings' _
    obtain rfl | hmade := List.mem_cons.mp hmade
    · exact ⟨vb, by simp, makeV1Varbind_ok hhead⟩
    · obtain ⟨vb', hmem, hvb'⟩ := ih hmade
      exact ⟨vb', by simp [hmem], hvb'⟩

theorem bindings_oids (hr : BindingsRepresentable vbs) :
    allOids Ber.Representable (bindings.map SnmpV1.VarBind.toValue) := by
  rw [allOids_iff]
  intro v hv
  obtain ⟨made, hmade, rfl⟩ := List.mem_map.mp hv
  obtain ⟨vb, hvb, hname, hvalue⟩ := exists_of_mem_bindings h hmade
  refine ⟨?_, v1Value_oids (hr vb hvb).2 hvalue, trivial⟩
  rw [hname]
  exact (hr vb hvb).1

theorem bindings_within (hmem : BindingsInMemory vbs) (hr : BindingsRepresentable vbs) :
    (Value.sequence .sequence (bindings.map SnmpV1.VarBind.toValue)).Within oidOctets
      (2 ^ 138) := by
  have hlen := h.length_eq
  have hcount := hmem.1
  unfold InVec at hcount
  refine (sequence_within _ _ (2 ^ 65) (2 ^ 71) (by rw [List.length_map]; omega) ?_).mono
    (by norm_num)
  intro v hv
  obtain ⟨made, hmade, rfl⟩ := List.mem_map.mp hv
  obtain ⟨vb, hvb, hname, hvalue⟩ := exists_of_mem_bindings h hmade
  refine (fields_within _ _ 2 (2 ^ 68) (by simp) ?_).mono (by norm_num)
  refine ⟨?_, ?_⟩
  · rw [hname]
    exact (objectIdentifier_within _ vb.1 (2 ^ 64) (le_of_lt (hmem.2 vb hvb).1)
      (hr vb hvb).1).mono (by norm_num)
  · exact v1Value_within (hmem.2 vb hvb).2 (hr vb hvb).2 hvalue

theorem readBindings_v1 (hr : BindingsRepresentable vbs) :
    ∃ got, List.Forall₂ (fun (vb : List UInt32 × VarBindValue) (g : List UInt32 × Grammar.SmiV1) =>
        g.1 = vb.1 ∧ vb.2.smiV1 = some g.2) vbs got ∧
      Grammar.readBindings Grammar.readSmiV1 ((Value.sequence .sequence
        (bindings.map SnmpV1.VarBind.toValue)).tlv oidOctets) = some got := by
  induction h with
  | nil => exact ⟨[], List.Forall₂.nil, by rw [List.map_nil, Grammar.readBindings, items?_tlv]; rfl⟩
  | cons hhead htail ih =>
    rename_i vb made vbs' bindings'
    obtain ⟨hname, hvalue⟩ := makeV1Varbind_ok hhead
    obtain ⟨hvbr, hvr⟩ := hr vb (by simp)
    obtain ⟨got, hgot, hread⟩ := ih fun x hx => hr x (by simp [hx])
    obtain ⟨s, hs⟩ : ∃ s, vb.2.smiV1 = some s := by
      cases hv : vb.2 <;> rw [hv] at hvalue <;>
        first | exact ⟨_, rfl⟩ | exact absurd hvalue (Outcome.fail_ne_ok _ _)
    have hone : Grammar.readBinding Grammar.readSmiV1 (made.toValue.tlv oidOctets) =
        some (vb.1, s) := by
      rw [Grammar.readBinding, SnmpV1.VarBind.toValue, items?_tlv]
      simp only [List.map_cons, List.map_nil, hname, oid?_tlv _ _ hvbr,
        readSmiV1_v1Value hvr hvalue, hs, Option.bind_eq_bind, Option.bind_some]
    refine ⟨(vb.1, s) :: got, List.Forall₂.cons ⟨rfl, hs⟩ hgot, ?_⟩
    rw [Grammar.readBindings, items?_tlv] at hread ⊢
    simp only [Option.bind_eq_bind, Option.bind_some] at hread ⊢
    rw [List.map_cons, List.map_cons, List.mapM_cons, hone, hread]
    rfl

end Bindings

theorem pduV1_oids {t : V1Trap} {bindings : List SnmpV1.VarBind} (ht : t.Representable)
    (h : List.Forall₂ (fun vb made => makeV1Varbind vb.1 vb.2 = .ok made) t.varbinds bindings) :
    (t.messageValue bindings).Oids Ber.Representable :=
  ⟨trivial, trivial,
    ⟨ht.1, trivial, trivial, trivial, trivial, bindings_oids h ht.2, trivial⟩, trivial⟩

theorem messageV1_within {t : V1Trap} {bindings : List SnmpV1.VarBind} (ht : t.Representable)
    (h : List.Forall₂ (fun vb made => makeV1Varbind vb.1 vb.2 = .ok made) t.varbinds bindings) :
    (t.messageValue bindings).Within oidOctets (2 ^ 146) := by
  obtain ⟨hc, he, hvbs⟩ := t.inMemory
  unfold InVec at hc he
  have hpdu : (t.pdu bindings).toValue.Within oidOctets (2 ^ 142) := by
    have hg := t.generic.le_toInt
    have hg' := t.generic.toInt_lt
    have hs := t.specific.le_toInt
    have hs' := t.specific.toInt_lt
    have hu := t.uptimeCentiseconds.toNat_lt
    refine (fields_within _ _ 6 (2 ^ 138) (by simp) ?_).mono (by norm_num)
    refine ⟨?_, ?_, ?_, ?_, ?_, ?_⟩
    · exact (objectIdentifier_within _ t.enterprise (2 ^ 64) (le_of_lt he) ht.1).mono
        (by norm_num)
    · exact (octetString_within _ t.agentAddr.octets 4
        (le_of_eq t.agentAddr.octets_length)).mono (by norm_num)
    · exact (integer_within _ t.generic.toInt (by omega) (by omega)).mono (by norm_num)
    · exact (integer_within _ t.specific.toInt (by omega) (by omega)).mono (by norm_num)
    · exact (integer_within _ (t.uptimeCentiseconds.toNat : ℤ) (by omega) (by omega)).mono
        (by norm_num)
    · exact bindings_within h hvbs ht.2
  refine (fields_within _ _ 3 (2 ^ 142) (by simp) ?_).mono (by norm_num)
  refine ⟨?_, ?_, ?_⟩
  · exact (integer_within _ 0 (by norm_num) (by norm_num)).mono (by norm_num)
  · exact (octetString_within _ t.community (2 ^ 64) (le_of_lt hc)).mono (by norm_num)
  · exact hpdu

theorem readMessage_v1 {r : Encoder} (hr : r.EmitsBer) {t : V1Trap} {w : List UInt8}
    {bindings : List SnmpV1.VarBind} (ht : t.Representable)
    (h : List.Forall₂ (fun vb made => makeV1Varbind vb.1 vb.2 = .ok made) t.varbinds bindings)
    (hw : encode r (t.messageValue bindings) = .ok w) :
    ∃ got, List.Forall₂ (fun (vb : List UInt32 × VarBindValue) (g : List UInt32 × Grammar.SmiV1) =>
        g.1 = vb.1 ∧ vb.2.smiV1 = some g.2) t.varbinds got ∧
      Grammar.readCommunityMessage Grammar.readTrapPduV1 w = some ⟨0, t.community,
        ⟨t.enterprise, t.agentAddr, t.generic, t.specific, t.uptimeCentiseconds, got⟩⟩ := by
  obtain ⟨got, hgot, hread⟩ := readBindings_v1 h ht.2
  have hd := decode_encode_value hr (pduV1_oids ht h) hw
  have haddr : (((SmiV1.NetworkAddress.internet ⟨.ofIpv4 t.agentAddr⟩).toValue.tlv
      oidOctets).contents? ⟨.application, 0⟩) = some t.agentAddr.octets := rfl
  have hoctets : Grammar.readAddress t.agentAddr.octets = some t.agentAddr := rfl
  have hticks : (((SmiV1.TimeTicks.mk t.uptimeCentiseconds).toValue.tlv oidOctets).uint32?
      ⟨.application, 3⟩) = some t.uptimeCentiseconds := uint32?_tlv _ _ _
  refine ⟨got, hgot, ?_⟩
  rw [Grammar.readCommunityMessage, hd]
  simp only [Option.bind_eq_bind, Option.bind_some, V1Trap.messageValue,
    CommunityMessage.toValue, items?_tlv, List.map_cons, List.map_nil, integer?_tlv,
    contents?_tlv, Grammar.readTrapPduV1, SnmpV1.Trap.toValue, SnmpV1.trapTag, V1Trap.pdu,
    oid?_tlv _ _ ht.1, haddr, hoctets, int32?_tlv, hticks, hread]

/-! ## Which traps are encoded -/

/-- One offending var-bind anywhere aborts the loop. -/
theorem mapM_makeV1Varbind (vbs : List (List UInt32 × VarBindValue)) :
    ((∃ vb ∈ vbs, (∃ bytes, vb.2 = .bits bytes) ∨ ∃ n, vb.2 = .counter64 n) ∧
      ∃ e, (vbs.mapM fun vb => makeV1Varbind vb.1 vb.2) = Outcome.fail e) ∨
    ((¬ ∃ vb ∈ vbs, (∃ bytes, vb.2 = .bits bytes) ∨ ∃ n, vb.2 = .counter64 n) ∧
      ∃ bindings, (vbs.mapM fun vb => makeV1Varbind vb.1 vb.2) = .ok bindings) := by
  rcases Outcome.mapM_ok_or (fun vb : List UInt32 × VarBindValue => makeV1Varbind vb.1 vb.2) vbs
    with ⟨bindings, h⟩ | ⟨vb, hvb, s, hs, hm⟩
  · refine Or.inr ⟨?_, bindings, h⟩
    rintro ⟨vb, hvb, hbad⟩
    -- the loop got past this var-bind
    have hall := Outcome.mapM_ok_iff.mp h
    obtain ⟨made, hmade⟩ : ∃ made, makeV1Varbind vb.1 vb.2 = .ok made := by
      clear h hbad
      induction hall with
      | nil => cases hvb
      | cons hhead _ ih =>
        obtain rfl | hvb := List.mem_cons.mp hvb
        · exact ⟨_, hhead⟩
        · exact ih hvb
    obtain ⟨_, hvalue⟩ := makeV1Varbind_ok hmade
    obtain ⟨bytes, hb⟩ | ⟨n, hn⟩ := hbad
    · rw [hb] at hvalue
      exact absurd hvalue (Outcome.fail_ne_ok _ _)
    · rw [hn] at hvalue
      exact absurd hvalue (Outcome.fail_ne_ok _ _)
  · left
    have hbad : (∃ bytes, vb.2 = .bits bytes) ∨ ∃ n, vb.2 = .counter64 n := by
      rw [makeV1Varbind] at hs
      cases hv : vb.2 with
      | bits bytes => exact Or.inl ⟨bytes, rfl⟩
      | counter64 n => exact Or.inr ⟨n, rfl⟩
      | _ =>
        rw [hv] at hs
        cases hs
    obtain ⟨made, hmade⟩ | ⟨e, he⟩ := (safe_makeV1Varbind vb.1 vb.2).cases
    · rw [hs] at hmade
      cases hmade
    · rw [hs] at he
      cases he
      exact ⟨⟨vb, hvb, hbad⟩, e, hm⟩

theorem buildV1Trap_total {r : Encoder} (hr : r.EmitsBer) {t : V1Trap} (ht : t.Representable)
    {bindings : List SnmpV1.VarBind}
    (hb : (t.varbinds.mapM fun vb => makeV1Varbind vb.1 vb.2) = .ok bindings) :
    ∃ w, buildV1Trap r t = .ok w ∧ encode r (t.messageValue bindings) = .ok w := by
  have hall := Outcome.mapM_ok_iff.mp hb
  obtain ⟨w, hw⟩ := encode_total hr (pduV1_oids ht hall) (messageV1_within ht hall)
    (by unfold lengthBound; norm_num)
  exact ⟨w, by rw [buildV1Trap_eq, hb, Outcome.ok_bind, hw], hw⟩

/-- **v1 encoding succeeds exactly on SMIv1 values and is then lossless.** Exactly a `Bits` or a
`Counter64` somewhere makes it fail; else the octets are all of a v1 message with the trap's own
fields and its var-binds in order, types and values kept. -/
theorem v1_trap_encodes_smiv1 (r : Encoder) (hr : r.EmitsBer) (t : V1Trap)
    (ht : t.Representable) :
    ((∃ e, buildV1Trap r t = Outcome.fail e) ↔
      ∃ vb ∈ t.varbinds, (∃ bytes, vb.2 = .bits bytes) ∨ ∃ n, vb.2 = .counter64 n) ∧
    ((∃ e, buildV1Trap r t = Outcome.fail e) ∨
      ∃ w got, buildV1Trap r t = .ok w ∧
        List.Forall₂ (fun (vb : List UInt32 × VarBindValue) (g : List UInt32 × Grammar.SmiV1) =>
          g.1 = vb.1 ∧ vb.2.smiV1 = some g.2) t.varbinds got ∧
        Grammar.readCommunityMessage Grammar.readTrapPduV1 w = some
          { version := 0
            community := t.community
            data :=
              { enterprise := t.enterprise
                agentAddr := t.agentAddr
                genericTrap := t.generic
                specificTrap := t.specific
                timeStamp := t.uptimeCentiseconds
                bindings := got } }) := by
  obtain ⟨hbad, e, he⟩ | ⟨hgood, bindings, hb⟩ := mapM_makeV1Varbind t.varbinds
  · have hfail : ∃ e, buildV1Trap r t = Outcome.fail e := ⟨e, by
      rw [buildV1Trap_eq, he, Outcome.fail_bind]⟩
    exact ⟨iff_of_true hfail hbad, Or.inl hfail⟩
  · have hall := Outcome.mapM_ok_iff.mp hb
    obtain ⟨w, hok, hw⟩ := buildV1Trap_total hr ht hb
    refine ⟨iff_of_false ?_ hgood, Or.inr ?_⟩
    · rintro ⟨e, he⟩
      rw [hok] at he
      exact Outcome.fail_ne_ok e w he.symm
    · obtain ⟨got, hgot, hread⟩ := readMessage_v1 hr ht hall hw
      exact ⟨w, got, hok, hgot, hread⟩

/-- An enterprise-specific trap with a value of every SMIv1 type. -/
def enterpriseSpecific : V1Trap where
  community := [112, 117, 98, 108, 105, 99]
  enterprise := [1, 3, 6, 1, 4, 1, 3, 1, 1]
  agentAddr := ⟨198, 51, 100, 42⟩
  generic := 6
  specific := 2147483647
  uptimeCentiseconds := 4294967295
  varbinds :=
    [([1, 3, 6, 1, 1], .integer (-2147483648)), ([1, 3, 6, 1, 2], .unsigned32 2147483648),
      ([1, 3, 6, 1, 3], .timeTicks 7), ([1, 3, 6, 1, 4], .ipAddress ⟨198, 51, 100, 42⟩),
      ([1, 3, 6, 1, 5], .objectId [2, 999, 4294967295]), ([1, 3, 6, 1, 6], .octetString [0, 255]),
      ([1, 3, 6, 1, 7], .null)]
  inMemory := by decide

theorem v1_trap_encodes_smiv1_enterpriseSpecific :
    Ber.x690.EmitsBer ∧ enterpriseSpecific.Representable ∧
      ((∃ e, buildV1Trap Ber.x690 enterpriseSpecific = Outcome.fail e) ↔
        ∃ vb ∈ enterpriseSpecific.varbinds,
          (∃ bytes, vb.2 = .bits bytes) ∨ ∃ n, vb.2 = .counter64 n) := by
  have hrep : enterpriseSpecific.Representable := by decide
  exact ⟨x690_emitsBer, hrep,
    (v1_trap_encodes_smiv1 Ber.x690 x690_emitsBer enterpriseSpecific hrep).1⟩

end SnmpTrap
