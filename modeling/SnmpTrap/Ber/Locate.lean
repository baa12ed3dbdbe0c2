import SnmpTrap.Ber.Tlv

/-! Finding an element inside encoded octets without decoding them: a path of item numbers leads
from the outermost element to an inner one, through constructed elements and through octet
strings that hold an encoding alike. `HoleAt` says that octets of a fixed length stand at such a
place and that nothing else of the encoding depends on them. -/
namespace SnmpTrap.Ber
set_option autoImplicit false
set_option maxHeartbeats 250000
set_option maxRecDepth 120000

/-- Offset of item number `k` in octets that are a run of elements. -/
def itemOffset : ℕ → List UInt8 → Option ℕ
  | 0, _ => some 0
  | k + 1, bs => do
    let (_, rest) ← readElement bs
    let off ← itemOffset k rest
    some (bs.length - rest.length + off)

/-- Offset and length of the contents octets of the element at a path. -/
def locate : List ℕ → List UInt8 → Option (ℕ × ℕ)
  | [], bs => do
    let (e, rest) ← readElement bs
    some (bs.length - rest.length - e.contents.length, e.contents.length)
  | k :: path, bs => do
    let (e, rest) ← readElement bs
    let off ← itemOffset k e.contents
    let (o, n) ← locate path (e.contents.drop off)
    some (bs.length - rest.length - e.contents.length + off + o, n)

/-- All octets, identifier and length included, of the element at a path. -/
def subelement : List ℕ → List UInt8 → Option (List UInt8)
  | [], bs => do
    let (_, rest) ← readElement bs
    some (bs.take (bs.length - rest.length))
  | k :: path, bs => do
    let (e, _) ← readElement bs
    let off ← itemOffset k e.contents
    subelement path (e.contents.drop off)

def header (tag : Tag) (constructed : Bool) (n : ℕ) : List UInt8 :=
  identifierOctet tag constructed :: lengthOctets n

theorem element_eq_header (tag : Tag) (constructed : Bool) (contents : List UInt8) :
    element tag constructed contents = header tag constructed contents.length ++ contents := rfl

theorem readElement_encode (t : Tlv) (rest : List UInt8) (h : t.encode.length < lengthBound) :
    ∃ e, readElement (t.encode ++ rest) = some (e, rest) := by
  cases t with
  | primitive tag contents =>
    rw [Tlv.encode] at h ⊢
    have hc := contents_lt_element tag false contents
    exact ⟨_, readElement_element tag false contents rest (by omega)⟩
  | constructed tag items =>
    rw [Tlv.encode] at h ⊢
    have hc := contents_lt_element tag true (encodeAll items)
    exact ⟨_, readElement_element tag true (encodeAll items) rest (by omega)⟩

theorem itemOffset_encodeAll (ts : List Tlv) (rest : List UInt8)
    (h : (encodeAll ts).length < lengthBound) :
    itemOffset ts.length (encodeAll ts ++ rest) = some (encodeAll ts).length := by
  induction ts with
  | nil => rfl
  | cons t ts ih =>
    rw [encodeAll, List.length_append] at h
    obtain ⟨e, he⟩ := readElement_encode t (encodeAll ts ++ rest) (by omega)
    rw [encodeAll, List.length_cons, List.append_assoc, itemOffset, he]
    simp only [Option.bind_eq_bind, Option.bind_some]
    rw [ih (by omega)]
    simp only [Option.bind_some, List.length_append, Option.some.injEq]
    omega

/-! ## Octets in a hole -/

/-- Octets `a` of length `n` stand in `f a` between `before` and `after`, and the path finds
them there whatever follows the encoding. -/
def HoleAt (path : List ℕ) (n : ℕ) (before after : List UInt8)
    (f : List UInt8 → List UInt8) : Prop :=
  ∀ a, a.length = n → f a = before ++ a ++ after ∧
    ∀ rest, locate path (f a ++ rest) = some (before.length, n)

theorem holeAt_element (tag : Tag) (constructed : Bool) (n : ℕ) (h : n < lengthBound) :
    HoleAt [] n (header tag constructed n) [] (element tag constructed) := by
  intro a ha
  subst ha
  refine ⟨by rw [List.append_nil, element_eq_header], fun rest => ?_⟩
  rw [locate, readElement_element _ _ _ _ h]
  simp only [Option.bind_eq_bind, Option.bind_some, Option.some.injEq, Prod.mk.injEq, and_true]
  rw [element_eq_header, List.length_append, List.length_append]
  omega

/-- A hole stays a hole when its encoding becomes item `pre.length` of a larger element; the
larger element fits when it does with one filling. -/
theorem HoleAt.inside {path : List ℕ} {n : ℕ} {before after : List UInt8}
    {f : List UInt8 → List UInt8} (h : HoleAt path n before after f) (tag : Tag)
    (constructed : Bool) (pre : List Tlv) (post : List UInt8) {a : List UInt8} (ha : a.length = n)
    (hfits : (encodeAll pre ++ f a ++ post).length < lengthBound) :
    HoleAt (pre.length :: path) n
      (header tag constructed (encodeAll pre ++ f a ++ post).length ++ encodeAll pre ++ before)
      (after ++ post) (fun b => element tag constructed (encodeAll pre ++ f b ++ post)) := by
  intro b hb
  obtain ⟨hf, hl⟩ := h b hb
  have hlen : (encodeAll pre ++ f b ++ post).length = (encodeAll pre ++ f a ++ post).length := by
    rw [hf, (h a ha).1]
    simp only [List.length_append, ha, hb]
  refine ⟨?_, fun rest => ?_⟩
  · simp only
    rw [element_eq_header, hlen, hf]
    simp only [List.append_assoc]
  · rw [locate, readElement_element _ _ _ _ (by omega)]
    simp only [Option.bind_eq_bind, Option.bind_some]
    have hpre : (encodeAll pre).length ≤ (encodeAll pre ++ f b ++ post).length := by
      simp only [List.length_append]
      omega
    rw [List.append_assoc, itemOffset_encodeAll _ _ (by omega)]
    simp only [Option.bind_some]
    rw [List.drop_left, hl post]
    simp only [Option.bind_some, Option.some.injEq, Prod.mk.injEq, and_true]
    rw [element_eq_header]
    rw [List.append_assoc] at hlen
    rw [hlen]
    simp only [List.length_append] at hlen ⊢
    omega

def overwrite (bs : List UInt8) (off : ℕ) (new : List UInt8) : List UInt8 :=
  bs.take off ++ new ++ bs.drop (off + new.length)

/-- Filling a hole in two ways: the place is the same, nothing else differs, and writing over the
place turns one filling into the other. -/
theorem HoleAt.fillings {path : List ℕ} {n : ℕ} {before after : List UInt8}
    {f : List UInt8 → List UInt8} (h : HoleAt path n before after f) {a b : List UInt8}
    (ha : a.length = n) (hb : b.length = n) :
    locate path (f a) = some (before.length, n) ∧ (f a).length = (f b).length ∧
      (∀ i, i < before.length ∨ before.length + n ≤ i → (f a)[i]? = (f b)[i]?) ∧
      overwrite (f a) before.length b = f b ∧ ((f a).drop before.length).take n = a := by
  obtain ⟨hfa, hl⟩ := h a ha
  have hfb := (h b hb).1
  refine ⟨by simpa using hl [], ?_, ?_, ?_, ?_⟩
  · rw [hfa, hfb]
    simp only [List.length_append, ha, hb]
  · intro i hi
    rw [hfa, hfb, List.append_assoc, List.append_assoc]
    obtain hi | hi := hi
    · rw [List.getElem?_append_left hi, List.getElem?_append_left hi]
    · rw [List.getElem?_append_right (by omega), List.getElem?_append_right (by omega),
        List.getElem?_append_right (by omega), List.getElem?_append_right (by omega), ha, hb]
  · rw [overwrite, hfa, hfb, List.drop_left' (by rw [List.length_append, ha, hb]),
      List.append_assoc before a, List.take_left]
  · rw [hfa, List.append_assoc, List.drop_left, List.take_left' ha]

theorem subelement_nil (t : Tlv) (rest : List UInt8) (h : t.encode.length < lengthBound) :
    subelement [] (t.encode ++ rest) = some t.encode := by
  obtain ⟨e, he⟩ := readElement_encode t rest h
  rw [subelement, he]
  simp

theorem subelement_cons (path : List ℕ) (tag : Tag) (constructed : Bool) (pre : List Tlv)
    (bs rest : List UInt8) (h : (encodeAll pre ++ bs).length < lengthBound) :
    subelement (pre.length :: path) (element tag constructed (encodeAll pre ++ bs) ++ rest) =
      subelement path bs := by
  rw [subelement, readElement_element _ _ _ _ h]
  simp only [Option.bind_eq_bind, Option.bind_some]
  rw [List.length_append] at h
  rw [itemOffset_encodeAll _ _ (by omega)]
  simp only [Option.bind_some]
  rw [List.drop_left]

theorem item_length_lt (tag : Tag) (pre : List Tlv) (t : Tlv) (post : List Tlv) :
    t.encode.length < (Tlv.constructed tag (pre ++ t :: post)).encode.length := by
  have hcontents := contents_lt_element tag true (encodeAll (pre ++ t :: post))
  have happend : (encodeAll (pre ++ t :: post)).length =
      (encodeAll pre).length + (t.encode.length + (encodeAll post).length) := by
    rw [encodeAll_append, encodeAll, List.length_append, List.length_append]
  rw [Tlv.encode]
  omega

theorem subelement_item (tag : Tag) (pre : List Tlv) (t : Tlv) (post : List Tlv)
    (h : (Tlv.constructed tag (pre ++ t :: post)).encode.length < lengthBound) :
    subelement [pre.length] (Tlv.constructed tag (pre ++ t :: post)).encode = some t.encode := by
  have hitem := (item_length_lt tag pre t post).trans h
  rw [Tlv.encode, encodeAll_append, encodeAll] at h ⊢
  have hcontents := contents_lt_element tag true
    (encodeAll pre ++ (t.encode ++ encodeAll post))
  have hcons := subelement_cons [] tag true pre (t.encode ++ encodeAll post) [] (by omega)
  rw [List.append_nil] at hcons
  rw [hcons]
  exact subelement_nil t (encodeAll post) hitem

end SnmpTrap.Ber
