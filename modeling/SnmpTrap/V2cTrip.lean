import SnmpTrap.Ber.Size
import SnmpTrap.Grammar
import SnmpTrap.Pdu

/-! v2c traps on the wire: what a receiver reads off `build_v2c_trap` is the trap. The trap PDU
here is also the one inside a v3 message. -/
namespace SnmpTrap
open Rust Ber
set_option autoImplicit false
set_option maxHeartbeats 250000
set_option maxRecDepth 120000

/-! ## Values -/

/-- The SMI value a receiver gets; BITS travel as an OCTET STRING. -/
def VarBindValue.smi : VarBindValue → Grammar.Smi
  | .integer i => .integer32 i
  | .unsigned32 u => .unsigned32 u
  | .timeTicks t => .timeTicks t
  | .ipAddress ip => .ipAddress ip
  | .objectId arcs => .objectId arcs
  | .octetString bytes => .octetString bytes
  | .null => .unspecified
  | .bits bytes => .octetString bytes
  | .counter64 n => .counter64 n

def VarBindValue.Representable : VarBindValue → Prop
  | .objectId arcs => Ber.Representable arcs
  | _ => True

instance : DecidablePred VarBindValue.Representable := fun v =>
  match v with
  | .objectId arcs => inferInstanceAs (Decidable (Ber.Representable arcs))
  | .integer _ => isTrue trivial
  | .unsigned32 _ => isTrue trivial
  | .timeTicks _ => isTrue trivial
  | .ipAddress _ => isTrue trivial
  | .octetString _ => isTrue trivial
  | .null => isTrue trivial
  | .bits _ => isTrue trivial
  | .counter64 _ => isTrue trivial

def BindingsRepresentable (vbs : List (List UInt32 × VarBindValue)) : Prop :=
  ∀ vb ∈ vbs, Ber.Representable vb.1 ∧ vb.2.Representable

instance : DecidablePred BindingsRepresentable := fun vbs =>
  inferInstanceAs (Decidable (∀ vb ∈ vbs, Ber.Representable vb.1 ∧ vb.2.Representable))

theorem readSmi_v2Value (v : VarBindValue) (h : v.Representable) :
    Grammar.readSmi ((v2Value v).toValue.tlv oidOctets) = some v.smi := by
  cases v with
  | integer i =>
    have hread : Grammar.readSmi (.primitive .integer (integerOctets i.toInt)) =
        ((readInteger (integerOctets i.toInt)).bind toInt32).map .integer32 := rfl
    rw [readInteger_integerOctets, Option.bind_some, toInt32_toInt] at hread
    exact hread
  | unsigned32 u =>
    have hread : Grammar.readSmi (.primitive SmiV1.gaugeTag (integerOctets u.toNat)) =
        ((readInteger (integerOctets u.toNat)).bind toUInt32).map .unsigned32 := rfl
    rw [readInteger_integerOctets, Option.bind_some, toUInt32_toNat] at hread
    exact hread
  | timeTicks t =>
    have hread : Grammar.readSmi (.primitive SmiV1.timeTicksTag (integerOctets t.toNat)) =
        ((readInteger (integerOctets t.toNat)).bind toUInt32).map .timeTicks := rfl
    rw [readInteger_integerOctets, Option.bind_some, toUInt32_toNat] at hread
    exact hread
  | ipAddress ip => rfl
  | objectId arcs =>
    have hread : Grammar.readSmi (.primitive .objectIdentifier (oidOctets arcs)) =
        (readOid (oidOctets arcs)).map .objectId := rfl
    rw [readOid_oidOctets arcs h] at hread
    exact hread
  | octetString bytes => rfl
  | null => rfl
  | bits bytes => rfl
  | counter64 n =>
    have hread : Grammar.readSmi (.primitive SmiV2.counter64Tag (integerOctets n.toNat)) =
        ((readInteger (integerOctets n.toNat)).bind toUInt64).map .counter64 := rfl
    rw [readInteger_integerOctets, Option.bind_some, toUInt64_toNat] at hread
    exact hread

theorem v2Value_oids (v : VarBindValue) (h : v.Representable) :
    (v2Value v).toValue.Oids Ber.Representable := by
  cases v <;> first | exact trivial | exact h

theorem v2Value_within (v : VarBindValue) (hmem : v.InMemory) (h : v.Representable) :
    (v2Value v).toValue.Within oidOctets (2 ^ 68) := by
  cases v with
  | integer i =>
    have hlo := i.le_toInt
    have hhi := i.toInt_lt
    exact (integer_within _ _ (by omega) (by omega)).mono (by norm_num)
  | unsigned32 u =>
    have hu := u.toNat_lt
    exact (integer_within _ (u.toNat : ℤ) (by omega) (by omega)).mono (by norm_num)
  | timeTicks t =>
    have ht := t.toNat_lt
    exact (integer_within _ (t.toNat : ℤ) (by omega) (by omega)).mono (by norm_num)
  | ipAddress ip => exact (octetString_within _ _ 4 (le_of_eq ip.octets_length)).mono (by norm_num)
  | objectId arcs =>
    exact (objectIdentifier_within _ arcs (2 ^ 64) (le_of_lt hmem) h).mono (by norm_num)
  | octetString bytes =>
    exact (octetString_within _ bytes (2 ^ 64) (le_of_lt hmem)).mono (by norm_num)
  | null => exact (null_within _).mono (by norm_num)
  | bits bytes => exact (octetString_within _ bytes (2 ^ 64) (le_of_lt hmem)).mono (by norm_num)
  | counter64 n =>
    have hn := n.toNat_lt
    exact (integer_within _ (n.toNat : ℤ) (by omega) (by omega)).mono (by norm_num)

/-! ## The trap PDU -/

def V2cTrap.Representable (t : V2cTrap) : Prop :=
  Ber.Representable t.trapOid ∧ BindingsRepresentable t.varbinds

instance : DecidablePred V2cTrap.Representable := fun t =>
  inferInstanceAs (Decidable (Ber.Representable t.trapOid ∧ BindingsRepresentable t.varbinds))

/-- What the receiver of the trap PDU reads. -/
def V2cTrap.received (t : V2cTrap) : Grammar.TrapPdu :=
  { requestId := t.requestId
    errorStatus := 0
    errorIndex := 0
    bindings := (sysUptimeOid, .timeTicks t.uptimeCentiseconds) ::
      (snmpTrapOidOid, .objectId t.trapOid) :: t.varbinds.map fun vb => (vb.1, vb.2.smi) }

theorem reserved_representable :
    Ber.Representable sysUptimeOid ∧ Ber.Representable snmpTrapOidOid := by decide

theorem bindings_representable (t : V2cTrap) (h : t.Representable) :
    BindingsRepresentable t.bindings := by
  intro vb hvb
  obtain rfl | hvb := List.mem_cons.mp hvb
  · exact ⟨reserved_representable.1, trivial⟩
  · obtain rfl | hvb := List.mem_cons.mp hvb
    · exact ⟨reserved_representable.2, h.1⟩
    · exact h.2 vb hvb

theorem toValue_v2Varbind (vb : List UInt32 × VarBindValue) :
    (v2Varbind vb).toValue = .sequence .sequence
      [.objectIdentifier .objectIdentifier vb.1, (v2Value vb.2).toValue] := rfl

theorem readTrapPdu_pdu (t : V2cTrap) (h : t.Representable) :
    Grammar.readTrapPdu (t.pdu.toValue.tlv oidOctets) = some t.received := by
  have hvbs := Grammar.readBindings_tlv t.bindings (·.1) (fun vb => (v2Value vb.2).toValue)
    (fun vb => vb.2.smi) (fun vb hvb => (bindings_representable t h vb hvb).1)
    (fun vb hvb => readSmi_v2Value vb.2 (bindings_representable t h vb hvb).2)
  rw [Grammar.readTrapPdu, SnmpV2.Trap.toValue, SnmpV2.trapTag, items?_tlv]
  simp only [List.map_cons, List.map_nil, integer?_tlv, Option.bind_eq_bind, Option.bind_some,
    int32?_tlv, V2cTrap.pdu, List.map_map, Function.comp_def, toValue_v2Varbind, hvbs]
  rfl

theorem pdu_oids (t : V2cTrap) (h : t.Representable) :
    t.pdu.toValue.Oids Ber.Representable := by
  have hvbs : allOids Ber.Representable
      ((t.bindings.map v2Varbind).map SnmpV2.VarBind.toValue) := by
    rw [allOids_iff]
    intro v hv
    rw [List.map_map] at hv
    obtain ⟨vb, hvb, rfl⟩ := List.mem_map.mp hv
    have hr := bindings_representable t h vb hvb
    exact ⟨hr.1, v2Value_oids vb.2 hr.2, trivial⟩
  exact ⟨trivial, trivial, trivial, hvbs, trivial⟩

theorem bindings_inMemory (t : V2cTrap) :
    t.bindings.length ≤ 2 ^ 65 ∧ ∀ vb ∈ t.bindings, InVec vb.1 ∧ vb.2.InMemory := by
  obtain ⟨_, htrap, hlen, hvbs⟩ := t.inMemory
  unfold InVec at hlen
  have hsys : InVec sysUptimeOid ∧ InVec snmpTrapOidOid := by decide
  refine ⟨by simp only [V2cTrap.bindings, List.length_cons]; omega, ?_⟩
  intro vb hvb
  obtain rfl | hvb := List.mem_cons.mp hvb
  · exact ⟨hsys.1, trivial⟩
  · obtain rfl | hvb := List.mem_cons.mp hvb
    · exact ⟨hsys.2, htrap⟩
    · exact hvbs vb hvb

theorem pdu_within (t : V2cTrap) (h : t.Representable) :
    t.pdu.toValue.Within oidOctets (2 ^ 142) := by
  obtain ⟨hcount, hmem⟩ := bindings_inMemory t
  have hvbs : (Value.sequence .sequence
      ((t.bindings.map v2Varbind).map SnmpV2.VarBind.toValue)).Within oidOctets (2 ^ 138) := by
    refine (sequence_within _ _ (2 ^ 65) (2 ^ 71) (by simpa using hcount) ?_).mono (by norm_num)
    intro v hv
    rw [List.map_map] at hv
    obtain ⟨vb, hvb, rfl⟩ := List.mem_map.mp hv
    have hr := bindings_representable t h vb hvb
    refine (fields_within _ _ 2 (2 ^ 68) (by simp) ?_).mono (by norm_num)
    refine ⟨?_, ?_⟩
    · exact (objectIdentifier_within _ vb.1 (2 ^ 64) (le_of_lt (hmem vb hvb).1) hr.1).mono
        (by norm_num)
    · exact v2Value_within vb.2 (hmem vb hvb).2 hr.2
  have hid := t.requestId.le_toInt
  have hid' := t.requestId.toInt_lt
  refine (fields_within _ _ 4 (2 ^ 138) (by simp) ?_).mono (by norm_num)
  refine ⟨?_, ?_, ?_, ?_⟩
  · exact (integer_within _ t.requestId.toInt (by omega) (by omega)).mono (by norm_num)
  · exact (integer_within _ 0 (by norm_num) (by norm_num)).mono (by norm_num)
  · exact (integer_within _ 0 (by norm_num) (by norm_num)).mono (by norm_num)
  · exact hvbs

/-! ## The message -/

def V2cTrap.messageValue (t : V2cTrap) : Value :=
  CommunityMessage.toValue SnmpV2.Trap.toValue ⟨1, t.community, t.pdu⟩

theorem buildV2cTrap_eq (r : Encoder) (t : V2cTrap) :
    buildV2cTrap r t = encode r t.messageValue := by
  rw [buildV2cTrap, v2cMessage_eq, Outcome.ok_bind]
  rfl

theorem messageValue_oids (t : V2cTrap) (h : t.Representable) :
    t.messageValue.Oids Ber.Representable := ⟨trivial, trivial, pdu_oids t h, trivial⟩

theorem messageValue_within (t : V2cTrap) (h : t.Representable) :
    t.messageValue.Within oidOctets (2 ^ 146) := by
  have hc := t.inMemory.1
  unfold InVec at hc
  refine (fields_within _ _ 3 (2 ^ 142) (by simp) ?_).mono (by norm_num)
  refine ⟨?_, ?_, ?_⟩
  · exact (integer_within _ 1 (by norm_num) (by norm_num)).mono (by norm_num)
  · exact (octetString_within _ t.community (2 ^ 64) (le_of_lt hc)).mono (by norm_num)
  · exact pdu_within t h

section Emits
variable {r : Encoder} (hr : r.EmitsBer)
include hr

theorem decode_encode_value {v : Value} {w : List UInt8} (hv : v.Oids Ber.Representable)
    (h : encode r v = .ok w) : decode w = some (v.tlv oidOctets) := by
  rw [hr.decode (encode_ok_iff.mp h), hr.tlv v hv]

theorem encode_total {v : Value} {bound : ℕ} (hv : v.Oids Ber.Representable)
    (hw : v.Within oidOctets bound) (hb : bound < lengthBound) : ∃ w, encode r v = .ok w := by
  obtain ⟨w, hw⟩ := hr.total v hv (by
    rw [hr.tlv v hv]
    exact lt_of_le_of_lt hw hb)
  exact ⟨w, encode_ok_iff.mpr hw⟩

theorem readMessage_v2c {t : V2cTrap} {w : List UInt8} (h : t.Representable)
    (hw : buildV2cTrap r t = .ok w) :
    Grammar.readCommunityMessage Grammar.readTrapPdu w = some ⟨1, t.community, t.received⟩ := by
  rw [buildV2cTrap_eq] at hw
  have hd := decode_encode_value hr (messageValue_oids t h) hw
  rw [Grammar.readCommunityMessage, hd]
  simp only [Option.bind_eq_bind, Option.bind_some, V2cTrap.messageValue,
    CommunityMessage.toValue, items?_tlv, List.map_cons, List.map_nil, integer?_tlv,
    contents?_tlv, readTrapPdu_pdu t h]

end Emits

/-! ## Nothing is lost -/

/-- Values that travel alike: BITS and OCTET STRING of the same octets. -/
def VarBindValue.merged : VarBindValue → VarBindValue
  | .bits bytes => .octetString bytes
  | v => v

/-- The traps agree but for `Bits` in one against `OctetString` in the other. -/
def V2cTrap.SameUpToBits (t t' : V2cTrap) : Prop :=
  t.community = t'.community ∧ t.requestId = t'.requestId ∧
    t.uptimeCentiseconds = t'.uptimeCentiseconds ∧ t.trapOid = t'.trapOid ∧
    t.varbinds.map (fun vb => (vb.1, vb.2.merged)) =
      t'.varbinds.map fun vb => (vb.1, vb.2.merged)

/-- The value a received SMI value came from, BITS aside. -/
def ofSmi : Grammar.Smi → VarBindValue
  | .integer32 i => .integer i
  | .octetString bytes => .octetString bytes
  | .objectId arcs => .objectId arcs
  | .ipAddress ip => .ipAddress ip
  | .unsigned32 n => .unsigned32 n
  | .timeTicks n => .timeTicks n
  | .counter64 n => .counter64 n
  | _ => .null

theorem ofSmi_smi (v : VarBindValue) : ofSmi v.smi = v.merged := by cases v <;> rfl

theorem received_injective {t t' : V2cTrap} (h : t.received = t'.received)
    (hc : t.community = t'.community) : t.SameUpToBits t' := by
  simp only [V2cTrap.received, Grammar.TrapPdu.mk.injEq, List.cons.injEq, Prod.mk.injEq,
    Grammar.Smi.timeTicks.injEq, Grammar.Smi.objectId.injEq, true_and] at h
  obtain ⟨hid, hup, htrap, hvbs⟩ := h
  refine ⟨hc, hid, hup, htrap, ?_⟩
  have hmap := congrArg (List.map fun vb : List UInt32 × Grammar.Smi => (vb.1, ofSmi vb.2)) hvbs
  simpa only [List.map_map, Function.comp_def, ofSmi_smi] using hmap

/-- **v2c encoding loses and reorders nothing.** A trap with representable OIDs is encoded, the
octets are all of a v2c message with the trap's own fields behind the two reserved var-binds, and
traps that are more than `Bits` against `OctetString` apart have different octets. -/
theorem v2c_trap_round_trip (r : Encoder) (hr : r.EmitsBer) :
    (∀ t : V2cTrap, t.Representable → ∃ w, buildV2cTrap r t = .ok w ∧
      Grammar.readCommunityMessage Grammar.readTrapPdu w = some
        { version := 1
          community := t.community
          data :=
            { requestId := t.requestId
              errorStatus := 0
              errorIndex := 0
              bindings := (sysUptimeOid, .timeTicks t.uptimeCentiseconds) ::
                (snmpTrapOidOid, .objectId t.trapOid) ::
                t.varbinds.map fun vb => (vb.1, vb.2.smi) } }) ∧
    ∀ (t t' : V2cTrap) (w : List UInt8), t.Representable → t'.Representable →
      buildV2cTrap r t = .ok w → buildV2cTrap r t' = .ok w → t.SameUpToBits t' := by
  constructor
  · intro t ht
    obtain ⟨w, hw⟩ := encode_total hr (messageValue_oids t ht) (messageValue_within t ht)
      (by unfold lengthBound; norm_num)
    rw [← buildV2cTrap_eq] at hw
    exact ⟨w, hw, readMessage_v2c hr ht hw⟩
  · intro t t' w ht ht' hw hw'
    have hread := readMessage_v2c hr ht hw
    rw [readMessage_v2c hr ht' hw'] at hread
    have hmsg := (Option.some.inj hread).symm
    exact received_injective (congrArg (·.data) hmsg) (congrArg (·.community) hmsg)

/-- A coldStart trap with a value of every type. -/
def coldStart : V2cTrap where
  community := [112, 117, 98, 108, 105, 99]
  requestId := -5
  uptimeCentiseconds := 4294967295
  trapOid := [1, 3, 6, 1, 6, 3, 1, 1, 5, 1]
  varbinds :=
    [([1, 3, 6, 1, 1], .integer (-2147483648)), ([1, 3, 6, 1, 2], .unsigned32 2147483648),
      ([1, 3, 6, 1, 3], .timeTicks 7), ([1, 3, 6, 1, 4], .ipAddress ⟨198, 51, 100, 42⟩),
      ([1, 3, 6, 1, 5], .objectId [2, 999, 4294967295]), ([1, 3, 6, 1, 6], .octetString [0, 255]),
      ([1, 3, 6, 1, 7], .null), ([1, 3, 6, 1, 8], .bits [128]),
      ([1, 3, 6, 1, 9], .counter64 18446744073709551615)]
  inMemory := by decide

theorem v2c_trap_round_trip_coldStart :
    Ber.x690.EmitsBer ∧ coldStart.Representable ∧ ∃ w, buildV2cTrap Ber.x690 coldStart = .ok w ∧
      Grammar.readCommunityMessage Grammar.readTrapPdu w =
        some ⟨1, coldStart.community, coldStart.received⟩ := by
  have hrep : coldStart.Representable := by decide
  exact ⟨x690_emitsBer, hrep, (v2c_trap_round_trip Ber.x690 x690_emitsBer).1 coldStart hrep⟩

end SnmpTrap
