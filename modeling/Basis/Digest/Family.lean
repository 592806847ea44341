import Basis.Digest.Buffered
import Basis.Digest.Sha2

/-!
# Families of hashers

A family is a first hasher and the copies made from it, one of which is the
current one. Calls go to the current hasher: an update, a digest in bytes or in
hexadecimal, a copy, which joins the family and becomes current, a selection of
an earlier member, and the reads of its sizes.

The SHA-2 members of a family share one block buffer (`Family.block`), so a
digest of one of them shows in the digests of the others; the buffered MD5 and
SHA-1 hashers share nothing.
-/

namespace Basis.Digest

/-- The digests a family can compute. -/
inductive Algorithm where
  /-- MD5. -/
  | md5
  /-- SHA-1. -/
  | sha1
  /-- A member of the SHA-2 family. -/
  | sha2 (v : Sha2.Variant)
  deriving DecidableEq, Repr, Inhabited

namespace Algorithm

/-- The algorithm of a name, as requests write it. -/
def ofName? : String → Option Algorithm
  | "md5" => some md5
  | "sha1" => some sha1
  | "sha224" => some (sha2 .sha224)
  | "sha256" => some (sha2 .sha256)
  | "sha384" => some (sha2 .sha384)
  | "sha512" => some (sha2 .sha512)
  | _ => none

/-- The name of the class of the hashers. -/
def className : Algorithm → String
  | md5 => "MD5Type"
  | sha1 => "sha"
  | sha2 v => v.className

/-- The number of bytes of a digest. -/
def digestSize : Algorithm → Nat
  | md5 => 16
  | sha1 => 20
  | sha2 v => v.digestSize

/-- The number of bytes of a block. -/
def blockSize : Algorithm → Nat
  | md5 | sha1 => 64
  | sha2 v => v.blockSize

end Algorithm

/-- One hasher. -/
inductive Hasher where
  /-- A buffered MD5 hasher. -/
  | md5 (s : Buffered Md5.Chain)
  /-- A buffered SHA-1 hasher. -/
  | sha1 (s : Buffered Sha1.Chain)
  /-- A SHA-2 hasher. -/
  | sha2 (h : Sha2.Hasher)

namespace Hasher

/-- The algorithm of a hasher. -/
def algorithm : Hasher → Algorithm
  | md5 _ => .md5
  | sha1 _ => .sha1
  | sha2 h => .sha2 h.variant

/-- A hasher that has taken nothing in. -/
def fresh : Algorithm → Hasher
  | .md5 => md5 (Buffered.fresh Design.md5)
  | .sha1 => sha1 (Buffered.fresh Design.sha1)
  | .sha2 v => sha2 (Sha2.Hasher.fresh v)

end Hasher

/-- What a call asks of the current hasher of a family. -/
inductive Call where
  /-- Take in a message part. -/
  | update (data : Value)
  /-- The digest of the message so far. -/
  | digest
  /-- The digest in hexadecimal. -/
  | hexdigest
  /-- Copy the current hasher and make the copy current. -/
  | copy
  /-- Make an earlier member current, by its position; negative positions count from the end. -/
  | select (index : Int)
  /-- Read an attribute of the current hasher. -/
  | read (name : String)
  deriving Inhabited

/-- A first hasher and its copies. -/
structure Family where
  /-- The members, in the order in which they were made. -/
  members : List Hasher
  /-- The position of the current member. -/
  current : Nat
  /-- The block buffer that the SHA-2 members share. -/
  block : List UInt8

namespace Family

/-- The family of one fresh hasher. -/
def fresh (a : Algorithm) : Family :=
  let block := match a with
    | .sha2 v => Sha2.Hasher.freshBlock v
    | _ => []
  ⟨[Hasher.fresh a], 0, block⟩

/-- The current member. -/
def hasher (f : Family) : Hasher := f.members.getD f.current (Hasher.fresh .md5)

/-- Replaces the current member. -/
def setHasher (f : Family) (h : Hasher) : Family := { f with members := f.members.set f.current h }

/-- Updates the current member; a failed update keeps what it changed. -/
def update (f : Family) (data : Value) : Family × Except Failure Unit :=
  match f.hasher with
  | .md5 s => let (s', r) := Buffered.update Design.md5 s data; (f.setHasher (.md5 s'), r)
  | .sha1 s => let (s', r) := Buffered.update Design.sha1 s data; (f.setHasher (.sha1 s'), r)
  | .sha2 h => let (h', r) := h.update data; (f.setHasher (.sha2 h'), r)

/-- The digest of the current member. -/
def digest (f : Family) : Family × Except Failure Value :=
  match f.hasher with
  | .md5 s => let (s', r) := Buffered.digest Design.md5 s; (f.setHasher (.md5 s'), r)
  | .sha1 s => let (s', r) := Buffered.digest Design.sha1 s; (f.setHasher (.sha1 s'), r)
  | .sha2 h =>
    let (block, bytes) := h.digest f.block
    ({ f with block }, .ok (.str (String.ofList (bytes.map fun b => Char.ofNat b.toNat))))

/-- The digest of the current member in hexadecimal: the code of every item of
the digest in two digits, which fails for a digest of bytes. -/
def hexdigest (f : Family) : Family × Except Failure Value :=
  match f.hasher with
  | .md5 s => let (s', r) := Buffered.hexdigest Design.md5 s; (f.setHasher (.md5 s'), r)
  | .sha1 s => let (s', r) := Buffered.hexdigest Design.sha1 s; (f.setHasher (.sha1 s'), r)
  | .sha2 _ =>
    let (f', r) := f.digest
    (f', r.map fun v => match v with
      | .str s => .str (String.join (s.toList.map fun c => Buffered.hexByte c.toNat))
      | v => v)

/-- Reads an attribute of the current member. -/
def read (f : Family) (name : String) : Except Failure Value :=
  let a := f.hasher.algorithm
  match name with
  | "digest_size" | "digestsize" => .ok (.int a.digestSize)
  | "block_size" => .ok (.int a.blockSize)
  | _ => .error (.noAttribute a.className name)

/-- Carries out one call on the family: the family after it and the call's value. -/
def step (f : Family) : Call → Family × Except Failure Value
  | .update data => let (f', r) := f.update data; (f', r.map fun () => .none)
  | .digest => f.digest
  | .hexdigest => f.hexdigest
  | .copy =>
    let members := f.members ++ [f.hasher]
    ({ f with members, current := members.length - 1 }, .ok (.int (members.length - 1)))
  | .select i =>
    let n : Int := f.members.length
    let j := if i < 0 then i + n else i
    if 0 ≤ j ∧ j < n then ({ f with current := j.toNat }, .ok (.int i)) else (f, .error .listIndex)
  | .read name => (f, f.read name)

/-- Makes a family and hands it its first message part, if it has one. A part
that is nothing, empty or zero is not handed on. -/
def start (a : Algorithm) (first : Value) : Except Failure Family :=
  let f := fresh a
  if first.truthy then
    let (f', r) := f.update first
    r.map fun () => f'
  else .ok f

end Family

end Basis.Digest
