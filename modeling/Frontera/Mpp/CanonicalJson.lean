import Mathlib
import Frontera.Text.Base64
import Frontera.Text.CodeUnitOrder
import Frontera.Text.Document

/-! The base64url, UTF-8 and JSON layers under a challenge's parameters. Each value has one
spelling: a byte string has one text, and a document one canonical serialization. -/

namespace Frontera.Mpp

open Frontera.Text Frontera.Text.Document Frontera.Text.Utf16 List Base64

/-- The bits that fill up no byte yet, and the bytes written. -/
structure Accumulated where
  (accumulator bits : Nat)
  bytes : List UInt8

def Accumulated.push (state : Accumulated) (sextet : Nat) : Accumulated :=
  let accumulator := (state.accumulator <<< 6 ||| sextet) &&& 0xffffff
  let bits := state.bits + 6
  if 8 ≤ bits then
    ⟨accumulator,bits - 8,state.bytes ++ [UInt8.ofNat ((accumulator >>> (bits - 8)) &&& 0xff)]⟩
  else ⟨accumulator,bits,state.bytes⟩

/-- The number of bytes that so many symbols hold. -/
def byteLengthOf (length : Nat) : Nat :=
  let remainder := length % 4
  (length - remainder) / 4 * 3 + if remainder = 0 then 0 else remainder - 1

def decodeBase64UrlNoPad (text : String) (maxBytes : Nat) : Option (List UInt8) :=
  if text.toList = [] ∨ text.toList.all (urlSafe.symbols.contains ·) = false then none
  else if text.toList.length % 4 = 1 then none
  else
    let byteLength := byteLengthOf text.toList.length
    if byteLength > maxBytes then none
    else
      let state := (text.toList.map urlSafe.sextet).foldl Accumulated.push ⟨0,0,[]⟩
      if state.accumulator &&& (1 <<< state.bits - 1) ≠ 0 then none
      else if state.bytes.length = byteLength then some state.bytes
      else none

theorem push_eq {accumulator bits sextet : Nat} (hsextet : sextet < 64) (bytes : List UInt8) :
    Accumulated.push ⟨accumulator,bits,bytes⟩ sextet = if 8 ≤ bits + 6 then
        ⟨(accumulator * 64 + sextet) % 2 ^ 24,bits + 6 - 8,bytes ++
          [UInt8.ofNat ((accumulator * 64 + sextet) % 2 ^ 24 / 2 ^ (bits + 6 - 8) % 2 ^ 8)]⟩
      else ⟨(accumulator * 64 + sextet) % 2 ^ 24,bits + 6,bytes⟩ := by
  have hor : accumulator <<< 6 ||| sextet = accumulator * 64 + sextet := by
    rw [← Nat.shiftLeft_add_eq_or_of_lt hsextet,Nat.shiftLeft_eq]
  have hmask (n : Nat) : n &&& 0xffffff = n % 2 ^ 24 := Nat.and_two_pow_sub_one_eq_mod n 24
  have hbyte (n : Nat) : n &&& 0xff = n % 2 ^ 8 := Nat.and_two_pow_sub_one_eq_mod n 8
  simp only [Accumulated.push,hor,hmask,hbyte,Nat.shiftRight_eq_div_pow]

theorem tail_eq (n bits : Nat) : n &&& (1 <<< bits - 1) = n % 2 ^ bits := by
  rw [Nat.one_shiftLeft,Nat.and_two_pow_sub_one_eq_mod]

private theorem ofNat_congr {m n : Nat} (h : m = n) : UInt8.ofNat m = UInt8.ofNat n := by rw [h]

private theorem push_two {x y : Nat} (hx : x < 64) (hy : y < 64) (accumulator : Nat)
    (bytes : List UInt8) :
    ∃ a, a % 2 ^ 4 = y % 2 ^ 4 ∧ (Accumulated.push ⟨accumulator,0,bytes⟩ x).push y =
        ⟨a,4,bytes ++ [UInt8.ofNat (x * 4 + y / 16)]⟩ := by
  refine ⟨((accumulator * 64 + x) % 2 ^ 24 * 64 + y) % 2 ^ 24,by omega,?_⟩
  rw [push_eq hx,if_neg (by decide),push_eq hy,if_pos (by decide)]
  congr 3
  exact ofNat_congr (by omega)

private theorem push_three {y z : Nat} (hz : z < 64) {a : Nat} (ha : a % 2 ^ 4 = y % 2 ^ 4)
    (bytes : List UInt8) :
    ∃ b, b % 2 ^ 2 = z % 2 ^ 2 ∧ Accumulated.push ⟨a,4,bytes⟩ z =
        ⟨b,2,bytes ++ [UInt8.ofNat (y % 16 * 16 + z / 4)]⟩ := by
  refine ⟨(a * 64 + z) % 2 ^ 24,by omega,?_⟩
  rw [push_eq hz,if_pos (by decide)]
  congr 3
  exact ofNat_congr (by omega)

theorem foldl_push (groups : List Nat) : ∀ (accumulator : Nat) (bytes : List UInt8),
    (∀ group ∈ groups, group < 64) → groups.length % 4 ≠ 1 →
    let state := groups.foldl Accumulated.push ⟨accumulator,0,bytes⟩
    state.bytes = bytes ++ octets groups ∧ (state.accumulator &&& (1 <<< state.bits - 1) = 0 ↔
        sextets (octets groups) = groups) := by
  induction groups using octets.induct with
  | case1 x y z w groups ih =>
    intro accumulator bytes hbound hlength
    simp only [mem_cons,forall_eq_or_imp] at hbound
    obtain ⟨hx,hy,hz,hw,hbound⟩ := hbound
    obtain ⟨a,ha,hpair⟩ := push_two hx hy accumulator bytes
    obtain ⟨b,hb,htriple⟩ := push_three hz ha (bytes ++ [UInt8.ofNat (x * 4 + y / 16)])
    have hlast : Accumulated.push ⟨b,2,bytes ++ [UInt8.ofNat (x * 4 + y / 16)] ++
          [UInt8.ofNat (y % 16 * 16 + z / 4)]⟩ w =
        ⟨(b * 64 + w) % 2 ^ 24,0,bytes ++ [UInt8.ofNat (x * 4 + y / 16),
          UInt8.ofNat (y % 16 * 16 + z / 4), UInt8.ofNat (z % 4 * 64 + w)]⟩ := by
      rw [push_eq hw,if_pos (by decide)]
      simp only [append_assoc,cons_append,nil_append]
      congr 5
      exact ofNat_congr (by omega)
    have hrest := ih ((b * 64 + w) % 2 ^ 24) (bytes ++ [UInt8.ofNat (x * 4 + y / 16),
      UInt8.ofNat (y % 16 * 16 + z / 4), UInt8.ofNat (z % 4 * 64 + w)]) hbound
      (by simpa only [length_cons,Nat.add_assoc,Nat.reduceAdd,Nat.add_mod_right] using hlength)
    simp only [foldl_cons,hpair,htriple,hlast] at hrest ⊢
    refine ⟨?_,hrest.2.trans ?_⟩
    · rw [hrest.1,octets,append_assoc]
      rfl
    · rw [octets,sextets]
      simp only [UInt8.toNat_ofNat',List.cons.injEq]
      constructor
      · intro h
        exact ⟨by omega,by omega,by omega,by omega,h⟩
      · exact fun h => h.2.2.2.2
  | case2 x y z =>
    intro accumulator bytes hbound _
    simp only [mem_cons,not_mem_nil,or_false,forall_eq_or_imp,forall_eq] at hbound
    obtain ⟨hx,hy,hz⟩ := hbound
    obtain ⟨a,ha,hpair⟩ := push_two hx hy accumulator bytes
    obtain ⟨b,hb,htriple⟩ := push_three hz ha (bytes ++ [UInt8.ofNat (x * 4 + y / 16)])
    simp only [foldl_cons,foldl_nil,hpair,htriple,tail_eq,hb]
    refine ⟨by rw [octets,append_assoc]; rfl,?_⟩
    rw [octets,sextets]
    simp only [UInt8.toNat_ofNat',List.cons.injEq,and_true]
    omega
  | case3 x y =>
    intro accumulator bytes hbound _
    simp only [mem_cons,not_mem_nil,or_false,forall_eq_or_imp,forall_eq] at hbound
    obtain ⟨hx,hy⟩ := hbound
    obtain ⟨a,ha,hpair⟩ := push_two hx hy accumulator bytes
    simp only [foldl_cons,foldl_nil,hpair,tail_eq,ha]
    refine ⟨by rw [octets],?_⟩
    rw [octets,sextets]
    simp only [UInt8.toNat_ofNat',List.cons.injEq,and_true]
    omega
  | case4 groups h1 h2 h3 =>
    intro accumulator bytes _ hlength
    rcases groups with _ | ⟨x,_ | ⟨y,_ | ⟨z,_ | ⟨w,groups⟩⟩⟩⟩
    · simp [octets,sextets]
    · exact absurd rfl hlength
    · exact absurd rfl (h3 x y)
    · exact absurd rfl (h2 x y z)
    · exact absurd rfl (h1 x y z w groups)

theorem byteLengthOf_sextets (bytes : List UInt8) : byteLengthOf (sextets bytes).length = bytes.length := by
  rw [length_sextets]
  simp only [byteLengthOf]
  split_ifs <;> omega

theorem decodeBase64UrlNoPad_eq_some_iff {text : String} {maxBytes : Nat} {bytes : List UInt8} :
    decodeBase64UrlNoPad text maxBytes = some bytes ↔ bytes ≠ [] ∧ bytes.length ≤ maxBytes ∧
        text = String.ofList (urlSafe.encodeUnpadded bytes) := by
  have hcontains : (∀ c ∈ text.toList, c ∈ urlSafe.symbols) ↔
      text.toList.all (urlSafe.symbols.contains ·) = true := by
    simp only [all_eq_true,contains_iff_mem]
  constructor
  · intro h
    unfold decodeBase64UrlNoPad at h
    simp only at h
    split_ifs at h with htext hremainder hlarge htail hwritten
    cases h
    rw [not_or,Bool.not_eq_false,← hcontains] at htext
    have hbound : ∀ group ∈ text.toList.map urlSafe.sextet, group < 64 := by
      intro group hgroup
      obtain ⟨c,hc,rfl⟩ := mem_map.1 hgroup
      exact sextet_lt (htext.2 c hc)
    obtain ⟨hbytes,hcanonical⟩ := foldl_push _ 0 [] hbound (by rwa [length_map])
    rw [nil_append] at hbytes
    have hgroups := hcanonical.1 (not_not.1 htail)
    rw [hbytes] at hwritten ⊢
    refine ⟨?_,by omega,?_⟩
    · intro hnil
      rw [hnil,sextets,eq_comm,map_eq_nil_iff] at hgroups
      exact htext.1 hgroups
    · rw [Base64.Alphabet.encodeUnpadded,hgroups,map_symbol_sextet htext.2,String.ofList_toList]
  · rintro ⟨hne,hsize,rfl⟩
    have hlength := length_sextets bytes
    have hpos := length_pos_iff.2 hne
    obtain ⟨hbytes,hcanonical⟩ := foldl_push (sextets bytes) 0 []
      (sextets_canonical bytes).1 (by omega)
    rw [nil_append,octets_sextets] at hbytes
    have htail := hcanonical.2 (by rw [octets_sextets])
    have hgroups : ((sextets bytes).map urlSafe.symbol).map urlSafe.sextet =
        sextets bytes := map_sextet_symbol (sextets_canonical bytes).1
    rw [String.toList_ofList] at hcontains
    rw [decodeBase64UrlNoPad,String.toList_ofList,Base64.Alphabet.encodeUnpadded,hgroups,
      length_map,byteLengthOf_sextets,if_neg,if_neg (by omega)]
    · simp only [htail,hbytes]
      rw [if_neg (by omega),if_neg (by simp),if_pos trivial]
    · rintro (hnil | hsymbols)
      · rw [map_eq_nil_iff,← length_eq_zero_iff] at hnil
        omega
      · have hall := hcontains.1 (symbols_mem bytes)
        rw [Base64.Alphabet.encodeUnpadded,hsymbols] at hall
        cases hall

def unitsOf (text : String) : Utf16 := (codeUnits text).map UInt16.ofNat

def decodeUtf8Fatal (bytes : List UInt8) : Option Utf16 :=
  (String.fromUTF8? ⟨bytes.toArray⟩).map unitsOf

theorem codeUnits_lt (text : String) : ∀ u ∈ codeUnits text, u < 2 ^ 16 := by
  intro u hu
  obtain ⟨c,-,hc⟩ := mem_flatMap.1 hu
  have hscalar : c.toNat < 0xD800 ∨ (0xDFFF < c.toNat ∧ c.toNat < 0x110000) := c.valid
  unfold charCodeUnits at hc
  split_ifs at hc
  · rw [mem_singleton] at hc
    omega
  · simp only [mem_cons,not_mem_nil,or_false] at hc
    omega

theorem unitsOf_injective : Function.Injective unitsOf := by
  intro text text' h
  have hread (text : String) : (unitsOf text).map UInt16.toNat = codeUnits text := by
    rw [unitsOf,map_map]
    refine (map_congr_left fun u hu => ?_).trans (map_id _)
    exact UInt16.toNat_ofNat_of_lt' (codeUnits_lt text u hu)
  apply codeUnits_injective
  rw [← hread,h,hread]

theorem decodeUtf8Fatal_inj {bytes bytes' : List UInt8} {text : Utf16}
    (h : decodeUtf8Fatal bytes = some text) (h' : decodeUtf8Fatal bytes' = some text) :
    bytes = bytes' := by
  obtain ⟨s,hs,rfl⟩ := Option.map_eq_some_iff.1 h
  obtain ⟨s',hs',hunits⟩ := Option.map_eq_some_iff.1 h'
  obtain rfl := unitsOf_injective hunits
  have hbytes {bytes : List UInt8} (hread : String.fromUTF8? ⟨bytes.toArray⟩ = some s') :
      s'.toUTF8 = ⟨bytes.toArray⟩ := by
    unfold String.fromUTF8? at hread
    split_ifs at hread
    cases hread
    rfl
  have heq := (hbytes hs).symm.trans (hbytes hs')
  simpa using heq

/-- `JSON.parse`, and `JSON.stringify` of a finite number. The properties of an object have
different names, since the last of duplicate members is the one that counts. -/
structure HostJson (N : Type) where
  parse : Utf16 → Option (Document N)
  isFinite : N → Bool
  print : N → Utf16
  parse_distinct : ∀ text value, parse text = some value → value.Distinct

variable {N : Type}

/-- `LONE_SURROGATE.test(text)` -/
def hasLoneSurrogate : Utf16 → Bool
  | [] => false
  | [u] => isHighSurrogate u || isLowSurrogate u
  | u :: v :: rest =>
      if isHighSurrogate u && isLowSurrogate v then hasLoneSurrogate rest
      else isHighSurrogate u || isLowSurrogate u || hasLoneSurrogate (v :: rest)

/-- One member, with the serialization of its value. -/
def jcsMember (member : Utf16 × Option Utf16) : Option Utf16 :=
  if hasLoneSurrogate member.1 then none
  else member.2.map fun serialized => quote member.1 ++ unit ':' :: serialized

mutual

def jcs (host : HostJson N) : Document N → Option Utf16
  | .null => some (utf16 "null")
  | .bool value => some (utf16 (if value then "true" else "false"))
  | .number value => if host.isFinite value then some (host.print value) else none
  | .string value => if hasLoneSurrogate value then none else some (quote value)
  | .array items =>
      ((jcsItems host items).mapM id).map fun texts =>
        unit '[' :: ([unit ','].intercalate texts ++ [unit ']'])
  | .object members =>
      (((jcsMembers host members).insertionSort keyLe).mapM jcsMember).map fun texts =>
        unit '{' :: ([unit ','].intercalate texts ++ [unit '}'])

def jcsItems (host : HostJson N) : List (Document N) → List (Option Utf16)
  | [] => []
  | item :: items => jcs host item :: jcsItems host items

def jcsMembers (host : HostJson N) : List (Utf16 × Document N) → List (Utf16 × Option Utf16)
  | [] => []
  | (key, value) :: members => (key, jcs host value) :: jcsMembers host members

end

def forbiddenJsonKeys : List Utf16 :=
  [utf16 "__proto__", utf16 "constructor", utf16 "prototype"]

def maxJsonDepth : Nat := 16

/-- Object members plus array elements, across the whole document. -/
def maxJsonMembers : Nat := 256

mutual

/-- The members counted so far, this value's included. -/
def walk (entry : Document N) (depth members : Nat) : Except String Nat :=
  if depth > maxJsonDepth then .error "nested too deeply"
  else
    match entry with
    | .array items => walkItems items depth members
    | .object properties => walkMembers properties depth members
    | _ => .ok members

def walkItems (items : List (Document N)) (depth members : Nat) : Except String Nat :=
  match items with
  | [] => .ok members
  | item :: items =>
      if members + 1 > maxJsonMembers then .error "too many members"
      else
        match walk item (depth + 1) (members + 1) with
        | .error violation => .error violation
        | .ok members => walkItems items depth members

def walkMembers (properties : List (Utf16 × Document N)) (depth members : Nat) : Except String Nat :=
  match properties with
  | [] => .ok members
  | (key, value) :: properties =>
      if forbiddenJsonKeys.contains key then .error "a prototype-shaped member name"
      else if members + 1 > maxJsonMembers then .error "too many members"
      else
        match walk value (depth + 1) (members + 1) with
        | .error violation => .error violation
        | .ok members => walkMembers properties depth members

end

def jsonShapeViolation (value : Document N) : Option String :=
  match walk value 0 0 with
  | .error violation => some violation
  | .ok _ => none

def decodeCanonicalJsonObject (host : HostJson N) (text : String) (maxBytes : Nat) :
    Except String (Document N) :=
  match decodeBase64UrlNoPad text maxBytes with
  | none => .error "not canonical base64url without padding, or too large"
  | some bytes =>
    match decodeUtf8Fatal bytes with
    | none => .error "not valid UTF-8"
    | some decoded =>
      match host.parse decoded with
      | none => .error "not valid JSON"
      | some (.object members) =>
        match jsonShapeViolation (.object members) with
        | some violation => .error violation
        | none =>
          if jcs host (.object members) = some decoded then .ok (.object members)
          else .error "not JCS-canonical (RFC 8785)"
      | some _ => .error "not a JSON object"

theorem jcsItems_eq_map (host : HostJson N) (items : List (Document N)) :
    jcsItems host items = items.map (jcs host) := by
  induction items with
  | nil => rw [jcsItems,map_nil]
  | cons item items ih => rw [jcsItems,ih,map_cons]

theorem jcsMembers_eq_map (host : HostJson N) (members : List (Utf16 × Document N)) :
    jcsMembers host members = members.map fun m => (m.1, jcs host m.2) := by
  induction members with
  | nil => rw [jcsMembers,map_nil]
  | cons m members ih =>
    obtain ⟨key,value⟩ := m
    rw [jcsMembers,ih,map_cons]

theorem jcs_sorted (host : HostJson N) (value : Document N) : jcs host value.sorted = jcs host value := by
  induction value using Document.induct with
  | null => rw [sorted]
  | bool b => rw [sorted]
  | number n => rw [sorted]
  | string s => rw [sorted]
  | array items ih =>
    have hitems : (items.map sorted).map (jcs host) = items.map (jcs host) := by
      rw [map_map]
      exact map_congr_left ih
    rw [sorted,sortedItems_eq_map,jcs,jcs,jcsItems_eq_map,jcsItems_eq_map,hitems]
  | object members ih =>
    have hvalues : (members.map fun m => (m.1, m.2.sorted)).map (fun m => (m.1, jcs host m.2)) =
        members.map fun m => (m.1, jcs host m.2) := by
      rw [map_map]
      refine map_congr_left fun m hm => ?_
      rw [Function.comp_apply,ih m hm]
    have hsort (members : List (Utf16 × Document N)) :
        (members.insertionSort keyLe).map (fun m => (m.1, jcs host m.2)) =
          (members.map fun m => (m.1, jcs host m.2)).insertionSort keyLe :=
      map_insertionSort keyLe keyLe (fun m => (m.1, jcs host m.2)) members
        fun _ _ _ _ => Iff.rfl
    rw [sorted,sortedMembers_eq_map,jcs,jcs,jcsMembers_eq_map,jcsMembers_eq_map,hsort,hvalues,
      (pairwise_insertionSort keyLe _).insertionSort_eq]

theorem decodeCanonicalJsonObject_ok {host : HostJson N} {text : String} {maxBytes : Nat}
    {value : Document N} (h : decodeCanonicalJsonObject host text maxBytes = .ok value) :
    value.Distinct ∧ ∃ bytes decoded, decodeBase64UrlNoPad text maxBytes = some bytes ∧
      decodeUtf8Fatal bytes = some decoded ∧ jcs host value = some decoded := by
  unfold decodeCanonicalJsonObject at h
  split at h
  · cases h
  · rename_i bytes hbytes
    split at h
    · cases h
    · rename_i decoded hdecoded
      split at h
      · cases h
      · rename_i members hparse
        split at h
        · cases h
        · split_ifs at h with hcanonical
          cases h
          exact ⟨host.parse_distinct decoded _ hparse,bytes,decoded,hbytes,hdecoded,hcanonical⟩
      · cases h

/-- Byte strings have one text each, and values up to the order of their members too. -/
theorem one_spelling : (∀ text maxBytes bytes, decodeBase64UrlNoPad text maxBytes = some bytes ↔
      bytes ≠ [] ∧ bytes.length ≤ maxBytes ∧ text = String.ofList (urlSafe.encodeUnpadded bytes)) ∧
    ∀ (N : Type) (host : HostJson N) text text' maxBytes maxBytes' value value',
      decodeCanonicalJsonObject host text maxBytes = .ok value →
      decodeCanonicalJsonObject host text' maxBytes' = .ok value' → Same value value' → text = text' := by
  refine ⟨fun text maxBytes bytes => decodeBase64UrlNoPad_eq_some_iff,?_⟩
  intro N host text text' maxBytes maxBytes' value value' h h' hsame
  obtain ⟨hdistinct,bytes,decoded,hbytes,hdecoded,hserialized⟩ := decodeCanonicalJsonObject_ok h
  obtain ⟨hdistinct',bytes',decoded',hbytes',hdecoded',hserialized'⟩ :=
    decodeCanonicalJsonObject_ok h'
  have hone : jcs host value = jcs host value' := by
    rw [← jcs_sorted,hsame.sorted_eq hdistinct hdistinct',jcs_sorted]
  obtain rfl := Option.some.inj (hserialized.symm.trans (hone.trans hserialized'))
  obtain rfl := decodeUtf8Fatal_inj hdecoded hdecoded'
  rw [(decodeBase64UrlNoPad_eq_some_iff.1 hbytes).2.2, (decodeBase64UrlNoPad_eq_some_iff.1 hbytes').2.2]

def sampleHost : HostJson Nat where
  parse text :=
    if text = utf16 "\x7b\"a\":1\x7d" then some (.object [(utf16 "a", .number 1)]) else none
  isFinite _ := true
  print n := utf16 (toString n)
  parse_distinct text value h := by
    split_ifs at h
    cases h
    exact .object (nodup_singleton _) fun m hm => by
      rw [mem_singleton.1 hm]
      exact .number 1

example : (decodeCanonicalJsonObject sampleHost "eyJhIjoxfQ" 6144).isOk = true := by
  decide +kernel

end Frontera.Mpp
