/-
**Addresses and prefixes**: what the egress guard takes from `net/netip` and `net`.
-/
import FfxNexus.StringLiteral
import Mathlib.Data.BitVec

namespace FfxNexus.Netip

open String

inductive Addr where
  | v4 (ip : BitVec 32)
  | v6 (ip : BitVec 128) (zone : String)
deriving DecidableEq, Repr

namespace Addr

def is4 : Addr → Bool
  | v4 _ => true
  | v6 _ _ => false

def zone : Addr → String
  | v4 _ => ""
  | v6 _ z => z

def withoutZone : Addr → Addr
  | v4 ip => v4 ip
  | v6 ip _ => v6 ip ""

def is4In6 : Addr → Bool
  | v4 _ => false
  | v6 ip _ => ip >>> 32 = 0xffff#128

def unmap : Addr → Addr
  | v4 ip => v4 ip
  | v6 ip z => if (v6 ip z).is4In6 then v4 (ip.setWidth 32) else v6 ip z

def isLoopback (a : Addr) : Bool :=
  match a.unmap with
  | v4 ip => ip >>> 24 = 127#32
  | v6 ip _ => ip = 1#128

def isLinkLocalUnicast (a : Addr) : Bool :=
  match a.unmap with
  | v4 ip => ip >>> 16 = 0xa9fe#32
  | v6 ip _ => (ip >>> 112) &&& 0xffc0#128 = 0xfe80#128

def isLinkLocalMulticast (a : Addr) : Bool :=
  match a.unmap with
  | v4 ip => ip >>> 8 = 0xe00000#32
  | v6 ip _ => (ip >>> 112) &&& 0xff0f#128 = 0xff02#128

lemma withoutZone_of_zone {a : Addr} (h : a.zone = "") : a.withoutZone = a := by
  cases a with
  | v4 ip => rfl
  | v6 ip z =>
    obtain rfl : z = "" := h
    rfl

lemma unmap_v6 (ip : BitVec 128) (z : String) :
    (v6 ip z).unmap = if (v6 ip z).is4In6 then v4 (ip.setWidth 32) else v6 ip z := rfl

variable (a : Addr)

lemma is4In6_unmap : a.unmap.is4In6 = false := by
  cases a with
  | v4 ip => rfl
  | v6 ip z =>
    by_cases h : (v6 ip z).is4In6 = true
    · rw [unmap_v6, if_pos h]
      rfl
    · rw [unmap_v6, if_neg h]
      exact Bool.eq_false_iff.mpr h

lemma unmap_of_not_mapped {a : Addr} (h : a.is4In6 = false) : a.unmap = a := by
  cases a with
  | v4 ip => rfl
  | v6 ip z =>
    rw [unmap_v6, if_neg (Bool.eq_false_iff.mp h)]

@[simp] lemma unmap_unmap : a.unmap.unmap = a.unmap :=
  unmap_of_not_mapped (is4In6_unmap a)

lemma unmap_withoutZone : a.withoutZone.unmap = a.unmap.withoutZone := by
  cases a with
  | v4 ip => rfl
  | v6 ip z =>
    have hsame : (v6 ip "").is4In6 = (v6 ip z).is4In6 := rfl
    rw [withoutZone, unmap_v6, unmap_v6, hsame]
    by_cases h : (v6 ip z).is4In6 = true
    · rw [if_pos h, if_pos h]
      rfl
    · rw [if_neg h, if_neg h]
      rfl

@[simp] lemma isLoopback_withoutZone : a.withoutZone.isLoopback = a.isLoopback := by
  unfold isLoopback
  rw [unmap_withoutZone]
  cases a.unmap <;> rfl

@[simp] lemma isLinkLocalUnicast_withoutZone :
    a.withoutZone.isLinkLocalUnicast = a.isLinkLocalUnicast := by
  unfold isLinkLocalUnicast
  rw [unmap_withoutZone]
  cases a.unmap <;> rfl

@[simp] lemma isLinkLocalMulticast_withoutZone :
    a.withoutZone.isLinkLocalMulticast = a.isLinkLocalMulticast := by
  unfold isLinkLocalMulticast
  rw [unmap_withoutZone]
  cases a.unmap <;> rfl

@[simp] lemma isLoopback_unmap : a.unmap.isLoopback = a.isLoopback := by
  simp [isLoopback]

end Addr

inductive Prefix where
  | v4 (ip : BitVec 32) (bits : Fin 33)
  | v6 (ip : BitVec 128) (bits : Fin 129)
deriving DecidableEq, Repr

namespace Prefix

def is4 : Prefix → Bool
  | v4 _ _ => true
  | v6 _ _ => false

def contains : Prefix → Addr → Bool
  | v4 p n, .v4 ip => (ip ^^^ p) >>> (32 - n.val) = 0#32
  | v6 p n, .v6 ip z => z = "" ∧ (ip ^^^ p) >>> (128 - n.val) = 0#128
  | _, _ => false

lemma contains_of_zone {p : Prefix} {a : Addr} (h : a.zone ≠ "") : p.contains a = false := by
  cases a with
  | v4 ip => exact absurd rfl h
  | v6 ip z =>
    have hz : z ≠ "" := h
    cases p <;> simp [contains, hz]

lemma is4_of_contains {p : Prefix} {a : Addr} (h : p.contains a = true) : p.is4 = a.is4 := by
  cases p <;> cases a <;> first | rfl | cases h

end Prefix

def inAny (ps : List Prefix) (a : Addr) : Bool := ps.any fun p => p.contains a

lemma inAny_of_zone {ps : List Prefix} {a : Addr} (h : a.zone ≠ "") : inAny ps a = false := by
  unfold inAny
  rw [List.any_eq_false]
  intro p _
  rw [Prefix.contains_of_zone h]
  exact Bool.false_ne_true

def digit (base : ℕ) (c : Char) : Option ℕ := (StringLiteral.hexDigit c).filter (· < base)

def number (base : ℕ) (s : List Char) : Option ℕ :=
  if s = [] then none
  else (s.mapM (digit base)).map fun ds => ds.foldl (fun n d => n * base + d) 0

def decimal (s : List Char) : Option ℕ :=
  if 1 < s.length ∧ s.head? = some '0' then none else number 10 s

def parseIPv4 (s : List Char) : Option (BitVec 32) :=
  match (s.splitOn '.').mapM fun f => (decimal f).filter (· ≤ 255) with
  | some [a, b, c, d] => some (BitVec.ofNat 32 (((a * 256 + b) * 256 + c) * 256 + d))
  | _ => none

def parseGroup (s : List Char) : Option ℕ := if 4 < s.length then none else number 16 s

def lastGroups : List (List Char) → Option (List ℕ)
  | [] => some []
  | [f] =>
    if '.' ∈ f then (parseIPv4 f).map fun ip => [ip.toNat / 65536, ip.toNat % 65536]
    else (parseGroup f).map fun g => [g]
  | f :: fs => do
      let g ← parseGroup f
      let gs ← lastGroups fs
      return g :: gs

def ellipsis : List Char → Option (List Char × List Char)
  | [] => none
  | ':' :: ':' :: rest => some ([], rest)
  | c :: rest => (ellipsis rest).map fun lr => (c :: lr.1, lr.2)

def ofGroups (gs : List ℕ) : BitVec 128 :=
  BitVec.ofNat 128 (gs.foldl (fun n g => n * 65536 + g) 0)

def parseIPv6 (s : List Char) : Option (BitVec 128) :=
  match ellipsis s with
  | none => ((lastGroups (s.splitOn ':')).filter fun gs => gs.length = 8).map ofGroups
  | some (l, r) => do
      let ls ← if l = [] then some [] else (l.splitOn ':').mapM parseGroup
      let rs ← if r = [] then some [] else lastGroups (r.splitOn ':')
      if ls.length + rs.length ≤ 7 then
        return ofGroups (ls ++ List.replicate (8 - (ls.length + rs.length)) 0 ++ rs)
      else none

def parseAddr (s : String) : Option Addr :=
  let cs := s.toList
  match cs.find? fun c => c = '.' ∨ c = ':' ∨ c = '%' with
  | some '.' => (parseIPv4 cs).map .v4
  | some ':' =>
    let zone := (cs.dropWhile (· ≠ '%')).tail
    if '%' ∈ cs ∧ zone = [] then none
    else (parseIPv6 (cs.takeWhile (· ≠ '%'))).map fun ip => .v6 ip (ofList zone)
  | _ => none

example : parseAddr "::ffff:169.254.169.254" =
    some (.v6 0x0000000000000000_0000ffffa9fea9fe#128 "") := by decide

example : parseAddr "fe80::1%eth0" =
    some (.v6 0xfe800000000000000000000000000001#128 "eth0") := by decide

example : parseAddr "010.0.0.1" = none := by decide

def parsePrefix (s : String) : Option Prefix :=
  let rev := s.toList.reverse
  if '/' ∉ rev then none
  else
    let bits := decimal (rev.takeWhile (· ≠ '/')).reverse
    match parseAddr (ofList (rev.dropWhile (· ≠ '/')).tail.reverse), bits with
    | some (.v4 ip), some n => if h : n < 33 then some (.v4 ip ⟨n, h⟩) else none
    | some (.v6 ip zone), some n =>
      if h : zone = "" ∧ n < 129 then some (.v6 ip ⟨n, h.2⟩) else none
    | _, _ => none

example : parsePrefix "172.16.0.0/12" = some (.v4 0xac100000#32 12) := by decide

def splitHostPort (s : String) : Option (String × String) :=
  match s.toList with
  | '[' :: rest =>
    let host := rest.takeWhile (· ≠ ']')
    match rest.dropWhile (· ≠ ']') with
    | ']' :: ':' :: port =>
      if '[' ∈ rest ∨ ']' ∈ port ∨ ':' ∈ port then none
      else some (ofList host, ofList port)
    | _ => none
  | cs =>
    let port := (cs.dropWhile (· ≠ ':')).tail
    if ':' ∉ cs ∨ ':' ∈ port ∨ '[' ∈ cs ∨ ']' ∈ cs then none
    else some (ofList (cs.takeWhile (· ≠ ':')), ofList port)

example : splitHostPort "[fe80::1%eth0]:443" = some ("fe80::1%eth0", "443") := by decide

def string4 (ip : BitVec 32) : String :=
  intercalate "." ([24, 16, 8, 0].map fun k => toString ((ip >>> k).toNat % 256))

def groups (ip : BitVec 128) : List ℕ :=
  [112, 96, 80, 64, 48, 32, 16, 0].map fun k => (ip >>> k).toNat % 65536

def longestZeros (gs : List ℕ) : ℕ × ℕ :=
  (List.range gs.length).foldl (fun best i =>
    let len := ((gs.drop i).takeWhile (· = 0)).length
    if 2 ≤ len ∧ best.2 < len then (i, len) else best) (0, 0)

def stringGroups (gs : List ℕ) : String :=
  intercalate ":" (gs.map fun g => ofList (Nat.toDigits 16 g))

def string6 (ip : BitVec 128) : String :=
  let gs := groups ip
  let z := longestZeros gs
  if z.2 = 0 then stringGroups gs
  else stringGroups (gs.take z.1) ++ "::" ++ stringGroups (gs.drop (z.1 + z.2))

def Addr.string (a : Addr) : String :=
  match a with
  | .v4 ip => string4 ip
  | .v6 ip zone =>
    (if a.is4In6 then "::ffff:" ++ string4 (ip.setWidth 32) else string6 ip) ++
      if zone = "" then "" else "%" ++ zone

example : (Addr.v6 0xfd000ec2000000000000000000000254#128 "eth0").string =
    "fd00:ec2::254%eth0" := by decide

end FfxNexus.Netip
