import Mathlib.Data.List.TakeWhile
import Mathlib.Data.String.Basic
import ServingOperator.Api.Http
import ServingOperator.Proofs.Route.Selection

namespace ServingOperator

namespace Address

/-- The characters that an address cannot hold, or that end a part of it. -/
def special : List Char :=
  (List.range 33).map Char.ofNat ++ ['\x22', '#', '<', '>', '?', '\x60', '\x7f']

def Clean (text : String) : Prop := ∀ c ∈ text.toList, c ∉ special

theorem not_mem_special {p : Char → Bool} (excluded : special.all (!p ·) = true) {c : Char}
    (h : p c = true) : c ∉ special := by
  intro member
  have out := List.all_eq_true.mp excluded c member
  rw [h] at out
  cases out

theorem fits_of_not_special {c : Char} (h : c ∉ special) :
    fitsPath c = true ∧ fitsQuery c = true ∧ c ≠ '#' ∧ c ≠ '?' := by
  have above : ' ' < c := by
    by_contra low
    have below : c.toNat < 33 := Nat.lt_succ_of_le (Char.not_lt.mp low)
    have low : c ∈ (List.range 33).map Char.ofNat :=
      List.mem_map.mpr ⟨c.toNat, List.mem_range.mpr below, Char.ofNat_toNat c⟩
    exact h (List.mem_append_left _ low)
  have others : c ∉ ['\x22', '#', '<', '>', '?', '\x60', '\x7f'] :=
    fun member => h (List.mem_append_right _ member)
  simp only [List.mem_cons, List.not_mem_nil, or_false, not_or] at others
  simp [fitsPath, fitsQuery, above, others]

theorem of?_of_clean {path : String} {parameters : List (String × String)} (cleanPath : Clean path)
    (cleanQuery : Clean (Query.write parameters))
    (short : (write path parameters).utf8ByteSize ≤ greatestSize) :
    of? path parameters = some ⟨path, Query.read (Query.write parameters).toList⟩ := by
  have written : (write path parameters).toList =
      path.toList ++ '?' :: (Query.write parameters).toList := by simp [write]
  have noMark : ∀ c ∈ path.toList, decide (c ≠ '?') = true := fun c member =>
    decide_eq_true (fits_of_not_special (cleanPath c member)).2.2.2
  have noSign : ∀ c ∈ (write path parameters).toList, decide (c ≠ '#') = true := by
    intro c member
    rw [written] at member
    rcases List.mem_append.mp member with first | rest
    · exact decide_eq_true (fits_of_not_special (cleanPath c first)).2.2.1
    · rcases List.mem_cons.mp rest with rfl | rest
      · rfl
      · exact decide_eq_true (fits_of_not_special (cleanQuery c rest)).2.2.1
  have fitsPath : path.toList.all fitsPath = true :=
    List.all_eq_true.mpr fun c member => (fits_of_not_special (cleanPath c member)).1
  have fitsQuery : (Query.write parameters).toList.all fitsQuery = true :=
    List.all_eq_true.mpr fun c member => (fits_of_not_special (cleanQuery c member)).2.1
  simp only [of?, read?]
  rw [List.takeWhile_eq_self_iff.mpr noSign, written, List.takeWhile_append_of_pos noMark,
    List.dropWhile_append_of_pos noMark]
  simp [short, fitsPath, fitsQuery]

end Address

namespace Query

theorem hexDigit_plain : ∀ n < 16, isPlain (hexDigit n) = true ∧ (hexDigit n).utf8Size = 1 := by
  decide

theorem not_special {d : Char} (plain : isPlain d = true) : d ∉ Address.special :=
  Address.not_mem_special (by decide +kernel) plain

theorem clean_encodeChar (c : Char) : ∀ d ∈ encodeChar c, d ∉ Address.special := by
  intro d member
  unfold encodeChar at member
  split at member
  · rename_i plain
    rw [List.mem_singleton.mp member]
    exact not_special plain
  split at member
  · rw [List.mem_singleton.mp member]
    decide
  · obtain ⟨b, -, written⟩ := List.mem_flatMap.mp member
    have bound : b.toNat < 256 := b.toNat_lt
    simp only [escape, List.mem_cons, List.not_mem_nil, or_false] at written
    rcases written with rfl | rfl | rfl
    · decide
    · exact not_special (hexDigit_plain _ (by omega)).1
    · exact not_special (hexDigit_plain _ (by omega)).1

theorem size_escape (b : UInt8) : String.utf8Len (escape b) = 3 := by
  have bound : b.toNat < 256 := b.toNat_lt
  have high := (hexDigit_plain (b.toNat / 16) (by omega)).2
  have low := (hexDigit_plain (b.toNat % 16) (by omega)).2
  have mark : '%'.utf8Size = 1 := by decide
  simp [escape, high, low, mark]

theorem size_flatMap_escape (bs : List UInt8) :
    String.utf8Len (bs.flatMap escape) = 3 * bs.length := by
  induction bs with
  | nil => rfl
  | cons b bs ih =>
    rw [List.flatMap_cons, String.utf8Len_append, ih, size_escape, List.length_cons]
    omega

theorem size_encodeChar_le (c : Char) : String.utf8Len (encodeChar c) ≤ 3 * c.utf8Size := by
  have positive : 1 ≤ c.utf8Size := c.utf8Size_pos
  have sign : '+'.utf8Size = 1 := by decide
  unfold encodeChar
  split
  · rw [String.utf8Len_cons, String.utf8Len_nil]
    omega
  split
  · rw [String.utf8Len_cons, String.utf8Len_nil]
    omega
  · rw [size_flatMap_escape, String.length_utf8EncodeChar]

theorem size_encode_le (text : String) : (encode text).utf8ByteSize ≤ 3 * text.utf8ByteSize := by
  rw [encode, String.utf8ByteSize_ofList, ← String.utf8Len_toList text]
  induction text.toList with
  | nil => simp
  | cons c cs ih =>
    have first := size_encodeChar_le c
    rw [List.flatMap_cons, String.utf8Len_append, String.utf8Len_cons]
    omega

theorem clean_write (pairs : List (String × String)) : Address.Clean (write pairs) := by
  intro c member
  have encoded {text : String} (member : c ∈ (encode text).toList) : c ∉ Address.special := by
    rw [encode, String.toList_ofList] at member
    obtain ⟨d, -, written⟩ := List.mem_flatMap.mp member
    exact clean_encodeChar d c written
  rw [write, String.toList_join] at member
  obtain ⟨written, listed, member⟩ := List.mem_flatMap.mp member
  obtain ⟨⟨name, value⟩, -, rfl⟩ := List.mem_map.mp listed
  simp only [String.toList_append, List.mem_append] at member
  rcases member with ((first | name) | sign) | value
  · rw [List.mem_singleton.mp first]
    decide
  · exact encoded name
  · rw [List.mem_singleton.mp sign]
    decide
  · exact encoded value

theorem write_cons (name value : String) (pairs : List (String × String)) :
    write ((name, value) :: pairs) =
      "&" ++ encode name ++ "=" ++ encode value ++ write pairs := by
  rw [write, List.map_cons, String.join_cons]
  rfl

def room : List (String × String) → Nat
  | [] => 0
  | (name, value) :: pairs => 2 + 3 * (name.utf8ByteSize + value.utf8ByteSize) + room pairs

theorem size_write_le (pairs : List (String × String)) :
    (write pairs).utf8ByteSize ≤ room pairs := by
  induction pairs with
  | nil => exact Nat.le_refl 0
  | cons pair pairs ih =>
    obtain ⟨name, value⟩ := pair
    have mark : "&".utf8ByteSize = 1 := rfl
    have sign : "=".utf8ByteSize = 1 := rfl
    have key := size_encode_le name
    have content := size_encode_le value
    rw [write_cons, room]
    simp only [String.utf8ByteSize_append, mark, sign]
    omega

end Query

/-- A name of an object, as an API server admits it. -/
structure IsName (name : String) : Prop where
  plain : Selector.Plain name
  given : name ≠ ""
  short : name.utf8ByteSize ≤ 253

namespace Address

structure Fits (text : String) (size : Nat) : Prop where
  plain : Selector.Plain text
  short : text.utf8ByteSize ≤ size

theorem Fits.append {a b : String} {m n : Nat} (first : Fits a m) (second : Fits b n) :
    Fits (a ++ b) (m + n) where
  plain := by
    have plain := first.plain
    have plain' := second.plain
    unfold Selector.Plain at *
    rw [String.toList_append, List.all_append, plain, plain', Bool.and_self]
  short := by
    have short := first.short
    have short' := second.short
    rw [String.utf8ByteSize_append]
    omega

theorem Fits.mono {text : String} {m n : Nat} (h : Fits text m) (le : m ≤ n) : Fits text n :=
  ⟨h.plain, h.short.trans le⟩

theorem Fits.exists_of? {path : String} (fits : Fits path 1000)
    {parameters : List (String × String)} (short : (Query.write parameters).utf8ByteSize ≤ 2000) :
    ∃ address, of? path parameters = some address := by
  have cleanPath : Clean path := fun c member =>
    not_mem_special (by decide +kernel) (List.all_eq_true.mp fits.plain c member)
  have size : (write path parameters).utf8ByteSize ≤ greatestSize := by
    have whole : greatestSize = 65534 := rfl
    have mark : "?".utf8ByteSize = 1 := rfl
    have short' := fits.short
    rw [write, String.utf8ByteSize_append, String.utf8ByteSize_append, mark, whole]
    omega
  exact ⟨_, of?_of_clean cleanPath (Query.clean_write parameters) size⟩

end Address

namespace Target

def Named : Target → Prop
  | serving inNamespace name | servingStatus inNamespace name | ingress inNamespace name =>
    IsName inNamespace ∧ IsName name
  | installNamespace name => IsName name

end Target

namespace Change

def Named : Change → Prop
  | merge target _ => target.Named
  | applyRoute inNamespace name _ | deleteRoute inNamespace name =>
    IsName inNamespace ∧ IsName name

end Change

theorem IsName.fits {name : String} (h : IsName name) : Address.Fits name 253 :=
  ⟨h.plain, h.short⟩

theorem ResourceKind.fits_path {k : ResourceKind} (version : Address.Fits k.apiVersion 46)
    (plural : Address.Fits k.plural 15) {inNamespace name : String} (space : IsName inNamespace)
    (named : IsName name) : Address.Fits (k.path (some inNamespace) ++ "/" ++ name) 587 := by
  have slash : Address.Fits "/" 1 := ⟨by decide, by decide⟩
  have start : Address.Fits "/apis/" 6 := ⟨by decide, by decide⟩
  have spaces : Address.Fits "namespaces/" 11 := ⟨by decide, by decide⟩
  have inside := (spaces.append space.fits).append slash
  have kind := (((start.append version).append slash).append inside).append plural
  exact (kind.append slash).append named.fits

theorem Change.fits_path {c : Change} (named : c.Named) : Address.Fits c.path 1000 := by
  have serving {inNamespace name : String} (space : IsName inNamespace) (named : IsName name) :=
    ResourceKind.fits_path (k := KnativeServing.kind) ⟨by decide, by decide⟩ ⟨by decide, by decide⟩
      space named
  have ingress {inNamespace name : String} (space : IsName inNamespace) (named : IsName name) :=
    ResourceKind.fits_path (k := Ingress.kind) ⟨by decide, by decide⟩ ⟨by decide, by decide⟩
      space named
  have route {inNamespace name : String} (space : IsName inNamespace) (named : IsName name) :=
    ResourceKind.fits_path (k := Route.kind) ⟨by decide, by decide⟩ ⟨by decide, by decide⟩
      space named
  cases c with
  | merge target patch =>
    cases target with
    | serving inNamespace name => exact (serving named.1 named.2).mono (by decide)
    | servingStatus inNamespace name =>
      have status : Address.Fits "/status" 7 := ⟨by decide, by decide⟩
      exact ((serving named.1 named.2).append status).mono (by decide)
    | ingress inNamespace name => exact (ingress named.1 named.2).mono (by decide)
    | installNamespace name =>
      have start : Address.Fits "/api/v1/namespaces/" 19 := ⟨by decide, by decide⟩
      exact (start.append (IsName.fits named)).mono (by decide)
  | applyRoute inNamespace name route' => exact (route named.1 named.2).mono (by decide)
  | deleteRoute inNamespace name => exact (route named.1 named.2).mono (by decide)

theorem Change.size_parameters_le (c : Change) :
    (Query.write c.parameters).utf8ByteSize ≤ 2000 := by
  refine (Query.size_write_le _).trans ?_
  cases c with
  | merge target patch => exact Nat.zero_le _
  | applyRoute inNamespace name route =>
    change Query.room [("force", "true"), ("fieldManager", fieldManager)] ≤ 2000
    decide
  | deleteRoute inNamespace name => exact Nat.zero_le _

theorem Change.name_ne_empty {c : Change} (named : c.Named) : c.name ≠ "" := by
  cases c with
  | merge target patch =>
    cases target with
    | serving inNamespace name => exact named.2.given
    | servingStatus inNamespace name => exact named.2.given
    | ingress inNamespace name => exact named.2.given
    | installNamespace name => exact IsName.given named
  | applyRoute inNamespace name route => exact named.2.given
  | deleteRoute inNamespace name => exact named.2.given

/-- The request for a change is made, if what it changes has a name. -/
theorem Change.exists_request {c : Change} (named : c.Named) :
    ∃ request, c.request? = some request := by
  obtain ⟨address, read⟩ := (c.fits_path named).exists_of? c.size_parameters_le
  refine ⟨c.requestAt address, ?_⟩
  rw [Change.request?, if_neg (c.name_ne_empty named), read, Option.map_some]

theorem Route.Owner.exists_listRequest {o : Route.Owner} (name : IsName o.name)
    (inNamespace : IsName o.inNamespace) : ∃ request, o.listRequest? = some request := by
  have path : Address.Fits (Route.kind.path none) 1000 := ⟨by decide, by decide⟩
  have size : (Query.write [("labelSelector", o.selector)]).utf8ByteSize ≤ 2000 := by
    have key : ownerNameLabel.utf8ByteSize = 40 := by decide
    have key' : ownerNamespaceLabel.utf8ByteSize = 45 := by decide
    have sign : "=".utf8ByteSize = 1 := rfl
    have comma : ",".utf8ByteSize = 1 := rfl
    have parameter : "labelSelector".utf8ByteSize = 13 := by decide
    have short := name.short
    have short' := inNamespace.short
    refine (Query.size_write_le _).trans ?_
    simp only [Query.room, Route.Owner.selector, String.utf8ByteSize_append, key, key', sign,
      comma, parameter]
    omega
  obtain ⟨address, read⟩ := path.exists_of? size
  exact ⟨_, by rw [Route.Owner.listRequest?, read, Option.map_some]⟩

end ServingOperator
