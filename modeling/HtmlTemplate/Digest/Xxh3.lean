/-
This file computes the 64-bit XXH3 digest with the seed zero and the default secret, and names texts by their
digests.
-/

import HtmlTemplate.Text.Rewrite

namespace HtmlTemplate.Digest

namespace Xxh3

/-- The bytes that the digest mixes into its input. -/
def secret : ByteArray := ⟨#[
  0xb8, 0xfe, 0x6c, 0x39, 0x23, 0xa4, 0x4b, 0xbe, 0x7c, 0x01, 0x81, 0x2c, 0xf7, 0x21, 0xad, 0x1c,
  0xde, 0xd4, 0x6d, 0xe9, 0x83, 0x90, 0x97, 0xdb, 0x72, 0x40, 0xa4, 0xa4, 0xb7, 0xb3, 0x67, 0x1f,
  0xcb, 0x79, 0xe6, 0x4e, 0xcc, 0xc0, 0xe5, 0x78, 0x82, 0x5a, 0xd0, 0x7d, 0xcc, 0xff, 0x72, 0x21,
  0xb8, 0x08, 0x46, 0x74, 0xf7, 0x43, 0x24, 0x8e, 0xe0, 0x35, 0x90, 0xe6, 0x81, 0x3a, 0x26, 0x4c,
  0x3c, 0x28, 0x52, 0xbb, 0x91, 0xc3, 0x00, 0xcb, 0x88, 0xd0, 0x65, 0x8b, 0x1b, 0x53, 0x2e, 0xa3,
  0x71, 0x64, 0x48, 0x97, 0xa2, 0x0d, 0xf9, 0x4e, 0x38, 0x19, 0xef, 0x46, 0xa9, 0xde, 0xac, 0xd8,
  0xa8, 0xfa, 0x76, 0x3f, 0xe3, 0x9c, 0x34, 0x3f, 0xf9, 0xdc, 0xbb, 0xc7, 0xc7, 0x0b, 0x4f, 0x1d,
  0x8a, 0x51, 0xe0, 0x4b, 0xcd, 0xb4, 0x59, 0x31, 0xc8, 0x9f, 0x7e, 0xc9, 0xd9, 0x78, 0x73, 0x64,
  0xea, 0xc5, 0xac, 0x83, 0x34, 0xd3, 0xeb, 0xc3, 0xc5, 0x81, 0xa0, 0xff, 0xfa, 0x13, 0x63, 0xeb,
  0x17, 0x0d, 0xdd, 0x51, 0xb7, 0xf0, 0xda, 0x49, 0xd3, 0x16, 0x55, 0x26, 0x29, 0xd4, 0x68, 0x9e,
  0x2b, 0x16, 0xbe, 0x58, 0x7d, 0x47, 0xa1, 0xfc, 0x8f, 0xf8, 0xb8, 0xd1, 0x7a, 0xd0, 0x31, 0xce,
  0x45, 0xcb, 0x3a, 0x8f, 0x95, 0x16, 0x04, 0x28, 0xaf, 0xd7, 0xfb, 0xca, 0xbb, 0x4b, 0x40, 0x7e]⟩

def prime32First : UInt64 := 0x9E3779B1
def prime32Second : UInt64 := 0x85EBCA77
def prime32Third : UInt64 := 0xC2B2AE3D
def prime64First : UInt64 := 0x9E3779B185EBCA87
def prime64Second : UInt64 := 0xC2B2AE3D27D4EB4F
def prime64Third : UInt64 := 0x165667B19E3779F9
def prime64Fourth : UInt64 := 0x85EBCA77C2B2AE63
def prime64Fifth : UInt64 := 0x27D4EB2F165667C5
def mixPrimeFirst : UInt64 := 0x165667919E3779F9
def mixPrimeSecond : UInt64 := 0x9FB21C651E98DF25

/-- A byte as a word, or zero beyond the end. -/
def byteAt (bytes : ByteArray) (index : Nat) : UInt64 :=
  if inRange : index < bytes.size then bytes[index].toUInt64 else 0

/-- The little-endian number in the given count of bytes. -/
def readBytes (bytes : ByteArray) : Nat → Nat → UInt64
  | 0, _ => 0
  | count + 1, index => byteAt bytes index ||| (readBytes bytes count (index + 1) <<< 8)

def read32 (bytes : ByteArray) (index : Nat) : UInt64 := readBytes bytes 4 index

def read64 (bytes : ByteArray) (index : Nat) : UInt64 := readBytes bytes 8 index

def rotateLeft (word amount : UInt64) : UInt64 := (word <<< amount) ||| (word >>> (64 - amount))

/-- The bytes of a word in reverse order. -/
def swapBytes (word : UInt64) : UInt64 :=
  (List.range 8).foldl (fun swapped index =>
    (swapped <<< 8) ||| ((word >>> (8 * index.toUInt64)) &&& 0xff)) 0

/-- The two halves of the full product, combined. -/
def foldedProduct (first second : UInt64) : UInt64 :=
  let product := first.toNat * second.toNat
  product.toUInt64 ^^^ (product >>> 64).toUInt64

def xorShift (word amount : UInt64) : UInt64 := word ^^^ (word >>> amount)

/-- The last mixing of a word. -/
def avalanche (word : UInt64) : UInt64 :=
  xorShift (xorShift word 37 * mixPrimeFirst) 32

/-- The finish of the digests of up to three bytes. -/
def avalancheShort (word : UInt64) : UInt64 :=
  xorShift (xorShift (xorShift word 33 * prime64Second) 29 * prime64Third) 32

/-- The finish of the digests of four to eight bytes. -/
def avalancheWord (word length : UInt64) : UInt64 :=
  let mixed := (word ^^^ rotateLeft word 49 ^^^ rotateLeft word 24) * mixPrimeSecond
  xorShift ((mixed ^^^ ((mixed >>> 35) + length)) * mixPrimeSecond) 28

/-- Mixes sixteen bytes of input with sixteen bytes of the secret. -/
def mix16 (input : ByteArray) (index secretIndex : Nat) : UInt64 :=
  foldedProduct (read64 input index ^^^ read64 secret secretIndex)
    (read64 input (index + 8) ^^^ read64 secret (secretIndex + 8))

def digestEmpty : UInt64 := avalancheShort (read64 secret 56 ^^^ read64 secret 64)

/-- One to three bytes. -/
def digestTiny (input : ByteArray) : UInt64 :=
  let length := input.size
  let combined := (byteAt input 0 <<< 16) ||| (byteAt input (length / 2) <<< 24) |||
    byteAt input (length - 1) ||| (length.toUInt64 <<< 8)
  avalancheShort (combined ^^^ (read32 secret 0 ^^^ read32 secret 4))

/-- Four to eight bytes. -/
def digestWord (input : ByteArray) : UInt64 :=
  let length := input.size
  let combined := read32 input (length - 4) + (read32 input 0 <<< 32)
  avalancheWord (combined ^^^ (read64 secret 8 ^^^ read64 secret 16)) length.toUInt64

/-- Nine to sixteen bytes. -/
def digestPair (input : ByteArray) : UInt64 :=
  let length := input.size
  let low := read64 input 0 ^^^ (read64 secret 24 ^^^ read64 secret 32)
  let high := read64 input (length - 8) ^^^ (read64 secret 40 ^^^ read64 secret 48)
  avalanche (length.toUInt64 + swapBytes low + high + foldedProduct low high)

/-- Up to 128 bytes, in blocks of sixteen from both ends. -/
def digestShort (input : ByteArray) : UInt64 :=
  let length := input.size
  let rounds := (length - 1) / 32 + 1
  avalanche ((List.range rounds).foldl (fun sum round =>
    sum + mix16 input (16 * round) (32 * round) +
      mix16 input (length - 16 * (round + 1)) (32 * round + 16))
    (length.toUInt64 * prime64First))

/-- Up to 240 bytes, in blocks of sixteen. -/
def digestMiddle (input : ByteArray) : UInt64 :=
  let length := input.size
  let first := avalanche ((List.range 8).foldl (fun sum round =>
    sum + mix16 input (16 * round) (16 * round)) (length.toUInt64 * prime64First))
  let second := (List.range (length / 16 - 8)).foldl (fun sum round =>
    sum + mix16 input (16 * (round + 8)) (16 * round + 3)) first
  avalanche (second + mix16 input (length - 16) 119)

abbrev Lanes := Vector UInt64 8

def initialLanes : Lanes :=
  #v[prime32Third, prime64First, prime64Second, prime64Third, prime64Fourth, prime32Second,
    prime64Fifth, prime32First]

/-- The lane that takes the input of the given lane. -/
def partner (lane : Nat) : Nat := if lane % 2 = 0 then lane + 1 else lane - 1

/-- Takes a stripe of 64 bytes into the lanes. -/
def accumulate (input : ByteArray) (lanes : Lanes) (index secretIndex : Nat) : Lanes :=
  Vector.ofFn fun lane =>
    let key := read64 input (index + 8 * lane) ^^^ read64 secret (secretIndex + 8 * lane)
    lanes[lane] + read64 input (index + 8 * partner lane) + (key &&& (0xffffffff : UInt64)) * (key >>> 32)

/-- Mixes the lanes after a full block of stripes. -/
def scramble (lanes : Lanes) : Lanes :=
  Vector.ofFn fun lane =>
    (xorShift lanes[lane] 47 ^^^ read64 secret (128 + 8 * lane)) * prime32First

/-- Takes the given count of stripes of a block into the lanes. -/
def accumulateStripes (input : ByteArray) (lanes : Lanes) (start count : Nat) : Lanes :=
  (List.range count).foldl (fun current stripe =>
    accumulate input current (start + 64 * stripe) (8 * stripe)) lanes

/-- Any longer input, in blocks of sixteen stripes of 64 bytes. -/
def digestLong (input : ByteArray) : UInt64 :=
  let length := input.size
  let blocks := (length - 1) / 1024
  let full := (List.range blocks).foldl (fun lanes block =>
    scramble (accumulateStripes input lanes (1024 * block) 16)) initialLanes
  let partly := accumulateStripes input full (1024 * blocks) ((length - 1 - 1024 * blocks) / 64)
  let lanes := accumulate input partly (length - 64) 121
  let merged :=
    foldedProduct (lanes[0] ^^^ read64 secret 11) (lanes[1] ^^^ read64 secret 19) +
    foldedProduct (lanes[2] ^^^ read64 secret 27) (lanes[3] ^^^ read64 secret 35) +
    foldedProduct (lanes[4] ^^^ read64 secret 43) (lanes[5] ^^^ read64 secret 51) +
    foldedProduct (lanes[6] ^^^ read64 secret 59) (lanes[7] ^^^ read64 secret 67)
  avalanche (length.toUInt64 * prime64First + merged)

end Xxh3

open Xxh3 in
/-- The XXH3 digest of some bytes. -/
def xxh3 (input : ByteArray) : UInt64 :=
  let length := input.size
  if length = 0 then digestEmpty
  else if length ≤ 3 then digestTiny input
  else if length ≤ 8 then digestWord input
  else if length ≤ 16 then digestPair input
  else if length ≤ 128 then digestShort input
  else if length ≤ 240 then digestMiddle input
  else digestLong input

/-- The digest of the UTF-8 form of a text. -/
def ofText (text : String) : UInt64 := xxh3 text.toUTF8

/-- A digest is written with all of its sixteen hexadecimal digits. -/
def toHex (digest : UInt64) : String := String.ofList (Text.hexDigits 16 digest.toNat)

/-- The name of a text by its content. -/
def contentName (text : String) : String := toHex (ofText text)

end HtmlTemplate.Digest
