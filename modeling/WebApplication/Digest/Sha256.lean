/-!
# SHA-256

The message is padded to blocks of sixteen words, and every block stirs eight words
of state through sixty-four rounds.
-/

set_option autoImplicit false

namespace WebApplication.Digest

abbrev Word := UInt32

def rotateRight (x : Word) (n : Word) : Word := (x >>> n) ||| (x <<< (32-n))

def roundConstants : List Word := [
  0x428a2f98, 0x71374491, 0xb5c0fbcf, 0xe9b5dba5, 0x3956c25b, 0x59f111f1, 0x923f82a4, 0xab1c5ed5,
  0xd807aa98, 0x12835b01, 0x243185be, 0x550c7dc3, 0x72be5d74, 0x80deb1fe, 0x9bdc06a7, 0xc19bf174,
  0xe49b69c1, 0xefbe4786, 0x0fc19dc6, 0x240ca1cc, 0x2de92c6f, 0x4a7484aa, 0x5cb0a9dc, 0x76f988da,
  0x983e5152, 0xa831c66d, 0xb00327c8, 0xbf597fc7, 0xc6e00bf3, 0xd5a79147, 0x06ca6351, 0x14292967,
  0x27b70a85, 0x2e1b2138, 0x4d2c6dfc, 0x53380d13, 0x650a7354, 0x766a0abb, 0x81c2c92e, 0x92722c85,
  0xa2bfe8a1, 0xa81a664b, 0xc24b8b70, 0xc76c51a3, 0xd192e819, 0xd6990624, 0xf40e3585, 0x106aa070,
  0x19a4c116, 0x1e376c08, 0x2748774c, 0x34b0bcb5, 0x391c0cb3, 0x4ed8aa4a, 0x5b9cca4f, 0x682e6ff3,
  0x748f82ee, 0x78a5636f, 0x84c87814, 0x8cc70208, 0x90befffa, 0xa4506ceb, 0xbef9a3f7, 0xc67178f2]

structure Chaining where
  a : Word
  b : Word
  c : Word
  d : Word
  e : Word
  f : Word
  g : Word
  h : Word

namespace Chaining

def start : Chaining :=
  ⟨0x6a09e667, 0xbb67ae85, 0x3c6ef372, 0xa54ff53a, 0x510e527f, 0x9b05688c, 0x1f83d9ab, 0x5be0cd19⟩

def round (s : Chaining) (constant word : Word) : Chaining :=
  let s1 := rotateRight s.e 6 ^^^ rotateRight s.e 11 ^^^ rotateRight s.e 25
  let choice := (s.e &&& s.f) ^^^ ((~~~s.e) &&& s.g)
  let t1 := s.h+s1+choice+constant+word
  let s0 := rotateRight s.a 2 ^^^ rotateRight s.a 13 ^^^ rotateRight s.a 22
  let majority := (s.a &&& s.b) ^^^ (s.a &&& s.c) ^^^ (s.b &&& s.c)
  ⟨t1+s0+majority, s.a, s.b, s.c, s.d+t1, s.e, s.f, s.g⟩

def add (s t : Chaining) : Chaining :=
  ⟨s.a+t.a, s.b+t.b, s.c+t.c, s.d+t.d, s.e+t.e, s.f+t.f, s.g+t.g, s.h+t.h⟩

def words (s : Chaining) : List Word := [s.a, s.b, s.c, s.d, s.e, s.f, s.g, s.h]

end Chaining

def wordBytes (x : Word) : List UInt8 :=
  [(x >>> 24).toUInt8, (x >>> 16).toUInt8, (x >>> 8).toUInt8, x.toUInt8]

def wordOf (a b c d : UInt8) : Word :=
  (a.toUInt32 <<< 24) ||| (b.toUInt32 <<< 16) ||| (c.toUInt32 <<< 8) ||| d.toUInt32

def wordsOf : List UInt8 → List Word
  | a::b::c::d::rest => wordOf a b c d::wordsOf rest
  | _ => []

/-- The message, one bit, zeros up to a block boundary, and the length in bits. -/
def pad (message : List UInt8) : List UInt8 :=
  let n := message.length
  let bits := n*8
  message++0x80::List.replicate ((119-n % 64) % 64) 0++
    (wordBytes (bits / 0x100000000).toUInt32++wordBytes bits.toUInt32)

def nextWord (window : List Word) : Word :=
  let at' (i : Nat) : Word := window.getD i 0
  let x := at' 1
  let y := at' 14
  let s0 := rotateRight x 7 ^^^ rotateRight x 18 ^^^ (x >>> 3)
  let s1 := rotateRight y 17 ^^^ rotateRight y 19 ^^^ (y >>> 10)
  at' 0+s0+at' 9+s1

def rounds : List Word → List Word → Chaining → Chaining
  | [], _, s => s
  | constant::constants, window, s =>
    rounds constants (window.drop 1++[nextWord window]) (s.round constant (window.headD 0))

def blocks : Nat → List Word → Chaining → Chaining
  | 0, _, s => s
  | n+1, words, s => blocks n (words.drop 16) (s.add (rounds roundConstants (words.take 16) s))

def sha256 (message : List UInt8) : List UInt8 :=
  let words := wordsOf (pad message)
  (blocks (words.length/16) words Chaining.start).words.flatMap wordBytes

end WebApplication.Digest
