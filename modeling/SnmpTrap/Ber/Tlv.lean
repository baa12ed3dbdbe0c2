import SnmpTrap.Ber.ObjectIdentifier

/-! Tag-length-value trees in definite-length BER: the encoder, a reader that consumes exactly
one encoding, and the round trip. Only low tag numbers (below 31) occur, so an identifier is
one octet. -/
namespace SnmpTrap.Ber
set_option autoImplicit false
set_option maxHeartbeats 250000
set_option maxRecDepth 120000

inductive TagClass
  | universal
  | application
  | context
  | privateUse
deriving DecidableEq, Repr

def TagClass.code : TagClass → ℕ
  | .universal => 0
  | .application => 1
  | .context => 2
  | .privateUse => 3

def TagClass.ofCode : ℕ → TagClass
  | 0 => .universal
  | 1 => .application
  | 2 => .context
  | _ => .privateUse

structure Tag where
  cls : TagClass
  number : Fin 31
deriving DecidableEq, Repr

instance instNeZeroTagNumber : NeZero 31 := ⟨by decide⟩

def Tag.integer : Tag := ⟨.universal, 2⟩
def Tag.octetString : Tag := ⟨.universal, 4⟩
def Tag.null : Tag := ⟨.universal, 5⟩
def Tag.objectIdentifier : Tag := ⟨.universal, 6⟩
def Tag.sequence : Tag := ⟨.universal, 16⟩

/-- Class in bits 8 and 7, the constructed flag in bit 6, the number below. -/
def identifierOctet (tag : Tag) (constructed : Bool) : UInt8 :=
  UInt8.ofNat (64 * tag.cls.code + (if constructed then 32 else 0) + tag.number.val)

def readIdentifier (b : UInt8) : Option (Tag × Bool) :=
  if h : b.toNat % 32 < 31 then
    some (⟨TagClass.ofCode (b.toNat / 64), ⟨b.toNat % 32, h⟩⟩, b.toNat / 32 % 2 = 1)
  else none

theorem readIdentifier_identifierOctet (tag : Tag) (constructed : Bool) :
    readIdentifier (identifierOctet tag constructed) = some (tag, constructed) := by
  obtain ⟨cls, number, hnumber⟩ := tag
  have hb : (identifierOctet ⟨cls, number, hnumber⟩ constructed).toNat =
      64 * cls.code + (if constructed then 32 else 0) + number := by
    unfold identifierOctet
    rw [UInt8.toNat_ofNat']
    cases cls <;> cases constructed <;> simp [TagClass.code] <;> omega
  unfold readIdentifier
  rw [hb]
  cases cls <;> cases constructed <;>
    simp only [TagClass.code, Bool.false_eq_true, if_false, if_true] <;>
    rw [dif_pos (by omega)] <;>
    simp only [Option.some.injEq, Prod.mk.injEq, Tag.mk.injEq, Fin.mk.injEq, decide_eq_true_eq,
      decide_eq_false_iff_not] <;>
    refine ⟨⟨?_, by omega⟩, by omega⟩
  · rw [show (64 * 0 + 0 + number) / 64 = 0 by omega]; rfl
  · rw [show (64 * 0 + 32 + number) / 64 = 0 by omega]; rfl
  · rw [show (64 * 1 + 0 + number) / 64 = 1 by omega]; rfl
  · rw [show (64 * 1 + 32 + number) / 64 = 1 by omega]; rfl
  · rw [show (64 * 2 + 0 + number) / 64 = 2 by omega]; rfl
  · rw [show (64 * 2 + 32 + number) / 64 = 2 by omega]; rfl
  · rw [show (64 * 3 + 0 + number) / 64 = 3 by omega]; rfl
  · rw [show (64 * 3 + 32 + number) / 64 = 3 by omega]; rfl

/-! ## One element -/

def element (tag : Tag) (constructed : Bool) (contents : List UInt8) : List UInt8 :=
  identifierOctet tag constructed :: (lengthOctets contents.length ++ contents)

structure Element where
  tag : Tag
  constructed : Bool
  contents : List UInt8
deriving DecidableEq, Repr

/-- Splits the first element off, leaving the octets after it. -/
def readElement : List UInt8 → Option (Element × List UInt8)
  | [] => none
  | b :: bs => do
    let (tag, constructed) ← readIdentifier b
    let (n, rest) ← readLength bs
    if rest.length < n then none
    else some (⟨tag, constructed, rest.take n⟩, rest.drop n)

theorem readElement_element (tag : Tag) (constructed : Bool) (contents rest : List UInt8)
    (h : contents.length < lengthBound) :
    readElement (element tag constructed contents ++ rest) =
      some (⟨tag, constructed, contents⟩, rest) := by
  unfold element
  rw [List.cons_append, List.append_assoc, readElement, readIdentifier_identifierOctet]
  simp only [Option.bind_eq_bind, Option.bind_some]
  rw [readLength_lengthOctets _ h]
  simp only [Option.bind_some]
  rw [if_neg (by rw [List.length_append]; omega), List.take_left, List.drop_left]

theorem element_length (tag : Tag) (constructed : Bool) (contents : List UInt8) :
    (element tag constructed contents).length =
      1 + (lengthOctets contents.length).length + contents.length := by
  simp [element]
  omega

theorem contents_lt_element (tag : Tag) (constructed : Bool) (contents : List UInt8) :
    contents.length + 2 ≤ (element tag constructed contents).length := by
  have := lengthOctets_length_pos contents.length
  rw [element_length]
  omega

/-! ## Trees -/

inductive Tlv
  | primitive (tag : Tag) (contents : List UInt8)
  | constructed (tag : Tag) (items : List Tlv)
deriving Repr

mutual
def Tlv.encode : Tlv → List UInt8
  | .primitive tag contents => element tag false contents
  | .constructed tag items => element tag true (encodeAll items)
def encodeAll : List Tlv → List UInt8
  | [] => []
  | t :: ts => t.encode ++ encodeAll ts
end

mutual
/-- Reads one tree and leaves the octets after it; `fuel` bounds the nesting and the items. -/
def readTlv : ℕ → List UInt8 → Option (Tlv × List UInt8)
  | 0, _ => none
  | fuel + 1, bs => do
    let (e, rest) ← readElement bs
    if e.constructed then
      let items ← readTlvs fuel e.contents
      some (.constructed e.tag items, rest)
    else some (.primitive e.tag e.contents, rest)
def readTlvs : ℕ → List UInt8 → Option (List Tlv)
  | 0, _ => none
  | fuel + 1, bs =>
    if bs = [] then some []
    else do
      let (t, rest) ← readTlv fuel bs
      let ts ← readTlvs fuel rest
      some (t :: ts)
end

/-- The tree of octets that are one encoding and nothing more. -/
def decode (bs : List UInt8) : Option Tlv :=
  match readTlv bs.length bs with
  | some (t, []) => some t
  | _ => none

theorem encodeAll_append (ts us : List Tlv) :
    encodeAll (ts ++ us) = encodeAll ts ++ encodeAll us := by
  induction ts with
  | nil => rfl
  | cons t ts ih => rw [List.cons_append, encodeAll, encodeAll, ih, List.append_assoc]

theorem encode_length_pos (t : Tlv) : 2 ≤ t.encode.length := by
  cases t with
  | primitive tag contents =>
    have := contents_lt_element tag false contents
    rw [Tlv.encode]
    omega
  | constructed tag items =>
    have := contents_lt_element tag true (encodeAll items)
    rw [Tlv.encode]
    omega

mutual
theorem readTlv_encode : ∀ (t : Tlv) (fuel : ℕ) (rest : List UInt8), t.encode.length ≤ fuel →
    t.encode.length < lengthBound → readTlv fuel (t.encode ++ rest) = some (t, rest)
  | .primitive tag contents, fuel, rest, hf, hb => by
      rw [Tlv.encode] at hf hb ⊢
      have hc := contents_lt_element tag false contents
      obtain ⟨fuel, rfl⟩ : ∃ f, fuel = f + 1 := ⟨fuel - 1, by omega⟩
      rw [readTlv, readElement_element _ _ _ _ (by omega)]
      simp
  | .constructed tag items, fuel, rest, hf, hb => by
      rw [Tlv.encode] at hf hb ⊢
      have hc := contents_lt_element tag true (encodeAll items)
      obtain ⟨fuel, rfl⟩ : ∃ f, fuel = f + 1 := ⟨fuel - 1, by omega⟩
      have hi := readTlvs_encodeAll items fuel (by omega) (by omega)
      rw [readTlv, readElement_element _ _ _ _ (by omega)]
      simp [hi]
theorem readTlvs_encodeAll : ∀ (ts : List Tlv) (fuel : ℕ), (encodeAll ts).length < fuel →
    (encodeAll ts).length < lengthBound → readTlvs fuel (encodeAll ts) = some ts
  | [], fuel, hf, _ => by
      obtain ⟨fuel, rfl⟩ : ∃ f, fuel = f + 1 := ⟨fuel - 1, by omega⟩
      simp [readTlvs, encodeAll]
  | t :: ts, fuel, hf, hb => by
      obtain ⟨fuel, rfl⟩ : ∃ f, fuel = f + 1 := ⟨fuel - 1, by omega⟩
      rw [encodeAll, List.length_append] at hf hb
      have hp := encode_length_pos t
      have ht := readTlv_encode t fuel (encodeAll ts) (by omega) (by omega)
      have hs := readTlvs_encodeAll ts fuel (by omega) (by omega)
      have hne : t.encode ++ encodeAll ts ≠ [] := by
        intro h
        have := congrArg List.length h
        rw [List.length_append, List.length_nil] at this
        omega
      rw [readTlvs, encodeAll, if_neg hne, ht]
      simp [hs]
end

/-- **Round trip.** An encoding decodes to the tree it came from. -/
theorem decode_encode (t : Tlv) (h : t.encode.length < lengthBound) :
    decode t.encode = some t := by
  have hr := readTlv_encode t t.encode.length [] le_rfl h
  rw [List.append_nil] at hr
  simp only [decode, hr]

end SnmpTrap.Ber
