import Mathlib.Data.List.Basic

namespace Libp2p.Webrtc.Noise

/-- `Fingerprint`: the SHA-256 digest of a certificate. It and its multihash come from
`fingerprint.rs` and the multihash library, outside this source; they are modelled as
`noise_prologue_tests` shows them, the multihash bytes `0x12 0x20` followed by the digest. -/
@[ext] structure Fingerprint where
  bytes : List UInt8
  length_bytes : bytes.length = 32
  deriving DecidableEq

/-- A multihash: the multicodec code of a hash function and a digest made with it. -/
structure Multihash where
  code : Nat
  digest : List UInt8

def sha2_256 : Nat := 0x12

/-- Unsigned LEB128, in which a multihash writes its code and the length of its digest. -/
def uvarint (n : Nat) : List UInt8 :=
  if n < 128 then [n.toUInt8] else (n % 128 + 128).toUInt8 :: uvarint (n / 128)
termination_by n
decreasing_by omega

/-- `Multihash::to_bytes`. -/
def Multihash.toBytes (m : Multihash) : List UInt8 :=
  uvarint m.code ++ uvarint m.digest.length ++ m.digest

/-- `Fingerprint::to_multihash`. -/
def Fingerprint.toMultihash (f : Fingerprint) : Multihash := ⟨sha2_256, f.bytes⟩

/-- `PREFIX` of `noise_prologue`. -/
def prologuePrefix : List UInt8 := "libp2p-webrtc-noise:".toUTF8.data.toList

def noisePrologue (clientFingerprint serverFingerprint : Fingerprint) : List UInt8 :=
  let client := clientFingerprint.toMultihash.toBytes
  let server := serverFingerprint.toMultihash.toBytes
  prologuePrefix ++ client ++ server

theorem uvarint_of_lt {n : Nat} (h : n < 128) : uvarint n = [n.toUInt8] := by
  rw [uvarint, if_pos h]

@[simp] theorem toBytes_toMultihash (f : Fingerprint) :
    f.toMultihash.toBytes = 0x12 :: 0x20 :: f.bytes := by
  simp only [Multihash.toBytes, Fingerprint.toMultihash, sha2_256, f.length_bytes,
    uvarint_of_lt (by decide : 0x12 < 128), uvarint_of_lt (by decide : 32 < 128)]
  rfl

theorem toBytes_toMultihash_injective {f g : Fingerprint}
    (h : f.toMultihash.toBytes = g.toMultihash.toBytes) : f = g :=
  Fingerprint.ext (by simpa using h)

theorem noisePrologue_eq (client server : Fingerprint) :
    noisePrologue client server =
      prologuePrefix ++ (0x12 :: 0x20 :: client.bytes) ++ (0x12 :: 0x20 :: server.bytes) := by
  simp [noisePrologue]

/-- The prologue determines both fingerprints and their order: all multihashes of fingerprints
have one length, so the prologue splits after the prefix at a fixed place. -/
theorem noise_prologue_injective {a b c d : Fingerprint}
    (h : noisePrologue a b = noisePrologue c d) : a = c ∧ b = d := by
  simp only [noisePrologue, List.append_assoc, List.append_cancel_left_eq] at h
  obtain ⟨hac, hbd⟩ := List.append_inj h (by simp [a.length_bytes, c.length_bytes])
  exact ⟨toBytes_toMultihash_injective hac, toBytes_toMultihash_injective hbd⟩

def fingerprintA : Fingerprint :=
  ⟨[0x3e, 0x79, 0xaf, 0x40, 0xd6, 0x05, 0x96, 0x17, 0xa0, 0xd8, 0x3b, 0x83, 0xa5, 0x2c, 0xe7, 0x3b,
    0x0c, 0x1f, 0x37, 0xa7, 0x2c, 0x60, 0x43, 0xad, 0x29, 0x69, 0xe2, 0x35, 0x1b, 0xdc, 0xa8, 0x70],
    rfl⟩

def fingerprintB : Fingerprint :=
  ⟨[0x30, 0xfc, 0x9f, 0x46, 0x9c, 0x20, 0x74, 0x19, 0xdf, 0xdd, 0x0a, 0xab, 0x5f, 0x27, 0xa8, 0x6c,
    0x97, 0x3c, 0x94, 0xe4, 0x05, 0x48, 0xdb, 0x93, 0x75, 0xcc, 0xa2, 0xe9, 0x15, 0x97, 0x3b, 0x99],
    rfl⟩

theorem noise_prologue_injective_test :
    noisePrologue fingerprintA fingerprintB = noisePrologue fingerprintA fingerprintB ∧
      fingerprintA = fingerprintA ∧ fingerprintB = fingerprintB :=
  ⟨rfl, noise_prologue_injective rfl⟩

example : noisePrologue fingerprintA fingerprintB =
    [0x6c, 0x69, 0x62, 0x70, 0x32, 0x70, 0x2d, 0x77, 0x65, 0x62, 0x72, 0x74, 0x63, 0x2d, 0x6e, 0x6f,
      0x69, 0x73, 0x65, 0x3a, 0x12, 0x20, 0x3e, 0x79, 0xaf, 0x40, 0xd6, 0x05, 0x96, 0x17, 0xa0, 0xd8,
      0x3b, 0x83, 0xa5, 0x2c, 0xe7, 0x3b, 0x0c, 0x1f, 0x37, 0xa7, 0x2c, 0x60, 0x43, 0xad, 0x29, 0x69,
      0xe2, 0x35, 0x1b, 0xdc, 0xa8, 0x70, 0x12, 0x20, 0x30, 0xfc, 0x9f, 0x46, 0x9c, 0x20, 0x74, 0x19,
      0xdf, 0xdd, 0x0a, 0xab, 0x5f, 0x27, 0xa8, 0x6c, 0x97, 0x3c, 0x94, 0xe4, 0x05, 0x48, 0xdb, 0x93,
      0x75, 0xcc, 0xa2, 0xe9, 0x15, 0x97, 0x3b, 0x99] := by
  rw [noisePrologue_eq]
  decide

end Libp2p.Webrtc.Noise
