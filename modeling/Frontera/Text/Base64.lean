import Mathlib.Data.List.Basic

/-! Byte strings as text: three octets in four symbols, the last group filled up with padding. A
text whose unused low bits are zero is the only one that denotes its octets. -/

namespace Frontera.Text.Base64

open List

/-- Sixty-four symbols, none of them the padding character. -/
structure Alphabet where
  symbols : List Char
  length_eq : symbols.length = 64
  nodup : symbols.Nodup
  unpadded : '=' ∉ symbols

/-- `BASE64_ALPHABET` -/
def standard : Alphabet where
  symbols := "ABCDEFGHIJKLMNOPQRSTUVWXYZabcdefghijklmnopqrstuvwxyz0123456789+/".toList
  length_eq := by decide +kernel
  nodup := by decide +kernel
  unpadded := by decide +kernel

/-- The alphabet of `base64url`. -/
def urlSafe : Alphabet where
  symbols := "ABCDEFGHIJKLMNOPQRSTUVWXYZabcdefghijklmnopqrstuvwxyz0123456789-_".toList
  length_eq := by decide +kernel
  nodup := by decide +kernel
  unpadded := by decide +kernel

variable {A : Alphabet}

def Alphabet.symbol (A : Alphabet) (sextet : Nat) : Char := A.symbols.getD sextet '='

/-- `alphabet.indexOf(c)`; 64 where the source has -1. -/
def Alphabet.sextet (A : Alphabet) (c : Char) : Nat := A.symbols.idxOf c

variable {n : Nat} {c : Char} {groups : List Nat} {data : List Char} {p : Nat}

theorem symbol_mem (h : n < 64) : A.symbol n ∈ A.symbols := by
  have hlt : n < A.symbols.length := by rw [A.length_eq]; exact h
  rw [Alphabet.symbol,getD_eq_getElem?_getD,List.getElem?_eq_getElem hlt,Option.getD_some]
  exact getElem_mem hlt

theorem sextet_symbol (h : n < 64) : A.sextet (A.symbol n) = n := by
  have hlt : n < A.symbols.length := by rw [A.length_eq]; exact h
  rw [Alphabet.symbol,getD_eq_getElem?_getD,List.getElem?_eq_getElem hlt,Option.getD_some]
  exact A.nodup.idxOf_getElem n hlt

theorem sextet_lt (h : c ∈ A.symbols) : A.sextet c < 64 := by
  rw [← A.length_eq]
  exact idxOf_lt_length_iff.2 h

theorem symbol_sextet (h : c ∈ A.symbols) : A.symbol (A.sextet c) = c := by
  have hlt := idxOf_lt_length_iff.2 h
  rw [Alphabet.symbol,Alphabet.sextet,getD_eq_getElem?_getD,List.getElem?_eq_getElem hlt,
    Option.getD_some,getElem_idxOf]

/-- The six-bit groups of a byte string, the last one filled up with zero bits. -/
def sextets : List UInt8 → List Nat
  | [] => []
  | [a] => [a.toNat / 4, a.toNat % 4 * 16]
  | [a, b] => [a.toNat / 4, a.toNat % 4 * 16 + b.toNat / 16, b.toNat % 16 * 4]
  | a :: b :: c :: bytes =>
      a.toNat / 4 :: (a.toNat % 4 * 16 + b.toNat / 16) :: (b.toNat % 16 * 4 + c.toNat / 64) ::
        c.toNat % 64 :: sextets bytes

/-- The octets of six-bit groups; bits that fill up no octet are dropped. -/
def octets : List Nat → List UInt8
  | x :: y :: z :: w :: groups =>
      .ofNat (x * 4 + y / 16) :: .ofNat (y % 16 * 16 + z / 4) :: .ofNat (z % 4 * 64 + w) ::
        octets groups
  | [x, y, z] => [.ofNat (x * 4 + y / 16), .ofNat (y % 16 * 16 + z / 4)]
  | [x, y] => [.ofNat (x * 4 + y / 16)]
  | _ => []

/-- Groups that some byte string has: no group left alone, no bit set behind the last octet. -/
def Canonical (groups : List Nat) : Prop :=
  (∀ group ∈ groups, group < 64) ∧ groups.length % 4 ≠ 1 ∧
    (groups.length % 4 = 2 → groups.getLastD 0 % 16 = 0) ∧
    (groups.length % 4 = 3 → groups.getLastD 0 % 4 = 0)

private theorem ofNat_eq {a : UInt8} (h : n = a.toNat) : UInt8.ofNat n = a := by
  rw [h,UInt8.ofNat_toNat]

theorem octets_sextets (bytes : List UInt8) : octets (sextets bytes) = bytes := by
  induction bytes using sextets.induct with
  | case1 => rfl
  | case2 a =>
    have ha := a.toNat_lt
    rw [sextets,octets,ofNat_eq (a := a) (by omega)]
  | case3 a b =>
    have ha := a.toNat_lt
    have hb := b.toNat_lt
    rw [sextets,octets,ofNat_eq (a := a) (by omega),ofNat_eq (a := b) (by omega)]
  | case4 a b c bytes ih =>
    have ha := a.toNat_lt
    have hb := b.toNat_lt
    have hc := c.toNat_lt
    rw [sextets,octets,ih,ofNat_eq (a := a) (by omega),ofNat_eq (a := b) (by omega),
      ofNat_eq (a := c) (by omega)]

theorem length_sextets (bytes : List UInt8) : (sextets bytes).length = (bytes.length * 4 + 2) / 3 := by
  induction bytes using sextets.induct with
  | case1 => rfl
  | case2 a => simp [sextets]
  | case3 a b => simp [sextets]
  | case4 a b c bytes ih =>
    simp only [sextets,length_cons,ih]
    omega

theorem sextets_canonical (bytes : List UInt8) : Canonical (sextets bytes) := by
  induction bytes using sextets.induct with
  | case1 => simp [sextets,Canonical]
  | case2 a =>
    have ha := a.toNat_lt
    refine ⟨?_,by simp [sextets],?_,by simp [sextets]⟩
    · simp only [sextets,mem_cons,not_mem_nil,or_false,forall_eq_or_imp,forall_eq]
      omega
    · simp [sextets]
  | case3 a b =>
    have ha := a.toNat_lt
    have hb := b.toNat_lt
    refine ⟨?_,by simp [sextets],by simp [sextets],?_⟩
    · simp only [sextets,mem_cons,not_mem_nil,or_false,forall_eq_or_imp,forall_eq]
      omega
    · simp [sextets]
  | case4 a b c bytes ih =>
    have ha := a.toNat_lt
    have hb := b.toNat_lt
    have hc := c.toNat_lt
    obtain ⟨hbound,hlength,htwo,hthree⟩ := ih
    have hmod : (sextets (a :: b :: c :: bytes)).length % 4 = (sextets bytes).length % 4 := by
      simp only [sextets,length_cons]
      omega
    have hlast (h : sextets bytes ≠ []) :
        (sextets (a :: b :: c :: bytes)).getLastD 0 = (sextets bytes).getLastD 0 := by
      obtain ⟨x,groups,hgroups⟩ := exists_cons_of_ne_nil h
      rw [sextets,hgroups]
      simp
    have hne (h : (sextets bytes).length % 4 ≠ 0) : sextets bytes ≠ [] := by
      intro hnil
      rw [hnil] at h
      exact h rfl
    rw [Canonical,hmod]
    refine ⟨?_,hlength,?_,?_⟩
    · simp only [sextets,mem_cons,forall_eq_or_imp]
      exact ⟨by omega,by omega,by omega,by omega,hbound⟩
    · intro h
      rw [hlast (hne (by omega))]
      exact htwo h
    · intro h
      rw [hlast (hne (by omega))]
      exact hthree h

theorem sextets_octets (h : Canonical groups) : sextets (octets groups) = groups := by
  induction groups using octets.induct with
  | case1 x y z w groups ih =>
    obtain ⟨hbound,hlength,htwo,hthree⟩ := h
    simp only [mem_cons,forall_eq_or_imp] at hbound
    obtain ⟨hx,hy,hz,hw,hbound⟩ := hbound
    have hlast (hne : groups ≠ []) : (x :: y :: z :: w :: groups).getLastD 0 = groups.getLastD 0 := by
      obtain ⟨g,rest,rfl⟩ := exists_cons_of_ne_nil hne
      simp
    have hne (h : groups.length % 4 ≠ 0) : groups ≠ [] := by
      rintro rfl
      exact h rfl
    simp only [length_cons,Nat.add_mod_right,show groups.length + 1 + 1 + 1 + 1 =
      groups.length + 4 from rfl] at hlength htwo hthree
    have hrest : Canonical groups := by
      refine ⟨hbound,hlength,?_,?_⟩
      · intro h
        rw [← hlast (hne (by omega))]
        exact htwo h
      · intro h
        rw [← hlast (hne (by omega))]
        exact hthree h
    rw [octets,sextets,ih hrest]
    simp only [UInt8.toNat_ofNat',List.cons.injEq,and_true]
    omega
  | case2 x y z =>
    obtain ⟨hbound,-,-,hthree⟩ := h
    simp only [mem_cons,not_mem_nil,or_false,forall_eq_or_imp,forall_eq] at hbound
    have hlast := hthree rfl
    simp only [getLastD_cons,getLastD_nil] at hlast
    simp only [octets,sextets,UInt8.toNat_ofNat',List.cons.injEq,and_true]
    omega
  | case3 x y =>
    obtain ⟨hbound,-,htwo,-⟩ := h
    simp only [mem_cons,not_mem_nil,or_false,forall_eq_or_imp,forall_eq] at hbound
    have hlast := htwo rfl
    simp only [getLastD_cons,getLastD_nil] at hlast
    simp only [octets,sextets,UInt8.toNat_ofNat',List.cons.injEq,and_true]
    omega
  | case4 groups h1 h2 h3 =>
    obtain ⟨-,hlength,-,-⟩ := h
    match groups with
    | [] => rfl
    | [x] => exact absurd rfl hlength
    | [x, y] => exact absurd rfl (h3 x y)
    | [x, y, z] => exact absurd rfl (h2 x y z)
    | x :: y :: z :: w :: groups => exact absurd rfl (h1 x y z w groups)

/-- The number of padding characters behind `n` octets. -/
def padding (n : Nat) : Nat := (3 - n % 3) % 3

def Alphabet.encode (A : Alphabet) (bytes : List UInt8) : List Char :=
  (sextets bytes).map A.symbol ++ List.replicate (padding bytes.length) '='

/-- The octets of a text, whatever its padding bits are. -/
def Alphabet.decode (A : Alphabet) (text : List Char) : List UInt8 :=
  octets ((text.takeWhile (· != '=')).map A.sextet)

theorem symbol_ne_padding (h : c ∈ A.symbols) : (c != '=') = true := by
  have hne : c ≠ '=' := by
    rintro rfl
    exact A.unpadded h
  simpa using hne

theorem takeWhile_data (h : ∀ c ∈ data, c ∈ A.symbols) (p : Nat) :
    (data ++ List.replicate p '=').takeWhile (· != '=') = data := by
  rw [takeWhile_append_of_pos fun c hc => symbol_ne_padding (h c hc)]
  cases p with
  | zero => simp
  | succ p => simp [replicate_succ]

theorem symbols_mem (bytes : List UInt8) : ∀ c ∈ (sextets bytes).map A.symbol, c ∈ A.symbols := by
  intro c hc
  obtain ⟨group,hgroup,rfl⟩ := mem_map.1 hc
  exact symbol_mem ((sextets_canonical bytes).1 group hgroup)

theorem map_sextet_symbol (h : ∀ group ∈ groups, group < 64) :
    (groups.map A.symbol).map A.sextet = groups := by
  rw [map_map]
  exact (map_congr_left fun group hgroup => sextet_symbol (h group hgroup)).trans
    (map_id _)

theorem map_symbol_sextet (h : ∀ c ∈ data, c ∈ A.symbols) : (data.map A.sextet).map A.symbol = data := by
  rw [map_map]
  exact (map_congr_left fun c hc => symbol_sextet (h c hc)).trans (map_id _)

theorem decode_encode (bytes : List UInt8) : A.decode (A.encode bytes) = bytes := by
  rw [Alphabet.decode,Alphabet.encode,takeWhile_data (symbols_mem bytes),
    map_sextet_symbol (sextets_canonical bytes).1,octets_sextets]

/-- The text without padding. -/
def Alphabet.encodeUnpadded (A : Alphabet) (bytes : List UInt8) : List Char :=
  (sextets bytes).map A.symbol

theorem decode_encodeUnpadded (bytes : List UInt8) : A.decode (A.encodeUnpadded bytes) = bytes := by
  have htake : (A.encodeUnpadded bytes).takeWhile (· != '=') = A.encodeUnpadded bytes := by
    simpa [Alphabet.encodeUnpadded] using takeWhile_data (symbols_mem (A := A) bytes) 0
  rw [Alphabet.decode,htake,Alphabet.encodeUnpadded,
    map_sextet_symbol (sextets_canonical bytes).1,octets_sextets]

/-- Data in whole groups of four with its padding, no bit set behind the last octet, is what its
octets are written as. -/
theorem encode_decode (hdata : ∀ c ∈ data, c ∈ A.symbols) (hp : p < 3)
    (hlength : (data.length + p) % 4 = 0)
    (hlast : p ≠ 0 → A.sextet (data.getLastD '=') % (if p = 2 then 16 else 4) = 0) :
    A.encode (A.decode (data ++ List.replicate p '=')) = data ++ List.replicate p '=' := by
  have hgroups : Canonical (data.map A.sextet) := by
    have hlast' (hne : data ≠ []) : (data.map A.sextet).getLastD 0 = A.sextet (data.getLastD '=') := by
      rw [getLastD_eq_getLast?,getLastD_eq_getLast?,List.getLast?_map,
        List.getLast?_eq_some_getLast hne]
      rfl
    have hne (h : data.length % 4 ≠ 0) : data ≠ [] := by
      rintro rfl
      exact h rfl
    refine ⟨?_,?_,?_,?_⟩
    · intro group hgroup
      obtain ⟨c,hc,rfl⟩ := mem_map.1 hgroup
      exact sextet_lt (hdata c hc)
    · rw [length_map]
      omega
    · intro h
      rw [length_map] at h
      obtain rfl : p = 2 := by omega
      rw [hlast' (hne (by omega))]
      exact hlast (by decide)
    · intro h
      rw [length_map] at h
      obtain rfl : p = 1 := by omega
      rw [hlast' (hne (by omega))]
      exact hlast (by decide)
  have hoctets : ((octets (data.map A.sextet)).length * 4 + 2) / 3 = data.length := by
    rw [← length_sextets,sextets_octets hgroups,length_map]
  have hpadding : padding (octets (data.map A.sextet)).length = p := by
    rw [padding]
    have hrest : (octets (data.map A.sextet)).length % 3 = 0 ∨
        (octets (data.map A.sextet)).length % 3 = 1 ∨ (octets (data.map A.sextet)).length % 3 = 2 := by
      omega
    rcases hrest with hrest | hrest | hrest
    · rw [hrest]
      omega
    · rw [hrest]
      omega
    · rw [hrest]
      omega
  rw [Alphabet.decode,takeWhile_data hdata,Alphabet.encode,sextets_octets hgroups,map_symbol_sextet hdata,
    hpadding]

private theorem length_mod_three (n : Nat) : n % 3 = 0 ∨ n % 3 = 1 ∨ n % 3 = 2 := by omega

private theorem encode_eq {bytes : List UInt8} (hdata : ∀ c ∈ data, c ∈ A.symbols)
    (h : A.encode bytes = data ++ List.replicate p '=') :
    (sextets bytes).map A.symbol = data ∧ padding bytes.length = p := by
  have hgroups : (sextets bytes).map A.symbol = data := by
    have htake := congrArg (List.takeWhile (· != '=')) h
    rwa [Alphabet.encode,takeWhile_data (symbols_mem bytes),takeWhile_data hdata] at htake
  rw [Alphabet.encode,hgroups,append_right_inj] at h
  exact ⟨hgroups,by simpa using congrArg List.length h⟩

theorem exists_encode_iff (hdata : ∀ c ∈ data, c ∈ A.symbols) (hp : p < 3) :
    (∃ bytes : List UInt8, A.encode bytes = data ++ List.replicate p '=' ∧ bytes.length = n) ↔
      (data.length + p) % 4 = 0 ∧ (p ≠ 0 → A.sextet (data.getLastD '=') % (if p = 2 then 16 else 4) = 0) ∧
        n = (data.length + p) / 4 * 3 - p := by
  constructor
  · rintro ⟨bytes,hencode,rfl⟩
    obtain ⟨hgroups,hpadding⟩ := encode_eq hdata hencode
    have hlength : data.length = (bytes.length * 4 + 2) / 3 := by
      rw [← hgroups,length_map,length_sextets]
    obtain ⟨hbound,-,htwo,hthree⟩ := sextets_canonical bytes
    have hlast (hne : sextets bytes ≠ []) : A.sextet (data.getLastD '=') = (sextets bytes).getLastD 0 := by
      rw [← hgroups,getLastD_eq_getLast?,getLastD_eq_getLast?,List.getLast?_map,
        List.getLast?_eq_some_getLast hne]
      exact sextet_symbol (hbound _ (getLast_mem hne))
    have hne (h : (sextets bytes).length % 4 ≠ 0) : sextets bytes ≠ [] := by
      intro hnil
      rw [hnil] at h
      exact h rfl
    rw [length_sextets] at htwo hthree hne
    rw [padding] at hpadding
    rcases length_mod_three bytes.length with hmod | hmod | hmod
    · rw [hmod] at hpadding
      obtain rfl : p = 0 := hpadding.symm
      exact ⟨by omega,fun h => absurd rfl h,by omega⟩
    · rw [hmod] at hpadding
      obtain rfl : p = 2 := hpadding.symm
      refine ⟨by omega,fun _ => ?_,by omega⟩
      rw [hlast (hne (by omega))]
      exact htwo (by omega)
    · rw [hmod] at hpadding
      obtain rfl : p = 1 := hpadding.symm
      refine ⟨by omega,fun _ => ?_,by omega⟩
      rw [hlast (hne (by omega))]
      exact hthree (by omega)
  · rintro ⟨hlength,hlast,rfl⟩
    have hencode := encode_decode hdata hp hlength hlast
    refine ⟨_,hencode,?_⟩
    obtain ⟨hgroups,hpadding⟩ := encode_eq hdata hencode
    have hcount := congrArg List.length hgroups
    rw [length_map,length_sextets] at hcount
    rw [padding] at hpadding
    rcases length_mod_three (A.decode (data ++ List.replicate p '=')).length with
      hmod | hmod | hmod
    · rw [hmod] at hpadding
      omega
    · rw [hmod] at hpadding
      omega
    · rw [hmod] at hpadding
      omega

end Frontera.Text.Base64
