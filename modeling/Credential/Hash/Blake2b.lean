import Credential.Hash.Sha2

/-! BLAKE2b without a key, for digests of 1 to 64 octets. -/

namespace Credential.Hash.Blake2b

open Sha2

/-- Which two message words each of the eight mixings of a round takes. -/
def wordOrders : List (List (Fin 16)) := [
  [0, 1, 2, 3, 4, 5, 6, 7, 8, 9, 10, 11, 12, 13, 14, 15],
  [14, 10, 4, 8, 9, 15, 13, 6, 1, 12, 0, 2, 11, 7, 5, 3],
  [11, 8, 12, 0, 5, 2, 15, 13, 10, 14, 3, 6, 7, 1, 9, 4],
  [7, 9, 3, 1, 13, 12, 11, 14, 2, 6, 5, 10, 4, 0, 15, 8],
  [9, 0, 5, 7, 2, 4, 10, 15, 14, 1, 11, 12, 6, 8, 3, 13],
  [2, 12, 6, 10, 0, 11, 8, 3, 4, 13, 7, 5, 15, 14, 1, 9],
  [12, 5, 1, 15, 14, 13, 4, 10, 0, 7, 6, 3, 9, 2, 8, 11],
  [13, 11, 7, 14, 12, 1, 3, 9, 5, 0, 15, 4, 8, 6, 2, 10],
  [6, 15, 14, 9, 11, 3, 0, 8, 12, 2, 13, 7, 1, 4, 10, 5],
  [10, 2, 8, 4, 7, 6, 1, 5, 15, 11, 9, 14, 3, 12, 13, 0]]

/-- The four columns, then the four diagonals. -/
def lines : List (Fin 16 × Fin 16 × Fin 16 × Fin 16) := [
  (0, 4, 8, 12), (1, 5, 9, 13), (2, 6, 10, 14), (3, 7, 11, 15),
  (0, 5, 10, 15), (1, 6, 11, 12), (2, 7, 8, 13), (3, 4, 9, 14)]

def rotateRight (word amount : UInt64) : UInt64 := (word >>> amount) ||| (word <<< (64 - amount))

def mix (state : Vector UInt64 16) (line : Fin 16 × Fin 16 × Fin 16 × Fin 16)
    (one two : UInt64) : Vector UInt64 16 :=
  let (a, b, c, d) := line
  let first := state[a] + state[b] + one
  let fourth := rotateRight (state[d] ^^^ first) 32
  let third := state[c] + fourth
  let second := rotateRight (state[b] ^^^ third) 24
  let first := first + second + two
  let fourth := rotateRight (fourth ^^^ first) 16
  let third := third + fourth
  let second := rotateRight (second ^^^ third) 63
  (((state.set a first).set b second).set c third).set d fourth

def pairs {α : Type} : List α → List (α × α)
  | first :: second :: rest => (first, second) :: pairs rest
  | _ => []

def round (message : Vector UInt64 16) (state : Vector UInt64 16) (order : List (Fin 16)) :
    Vector UInt64 16 :=
  (lines.zip (pairs order)).foldl
    (fun state (line, one, two) => mix state line message[one] message[two]) state

def initial : Vector UInt64 8 := Vector.ofFn fun index => UInt64.ofNat (squareRoots.getD index 0)

/-- One block; `count` is the number of octets up to its end. -/
def compress (chain : Vector UInt64 8) (block : Bytes) (count : Nat) (last : Bool) :
    Vector UInt64 8 :=
  let message : Vector UInt64 16 := Vector.ofFn fun index => Bytes.littleWord block index
  let state : Vector UInt64 16 := chain ++ initial
  let state := state.set 12 (state[12] ^^^ UInt64.ofNat (count % Nat.pow 2 64))
  let state := state.set 13 (state[13] ^^^ UInt64.ofNat (count / Nat.pow 2 64))
  let state := if last then state.set 14 (~~~state[14]) else state
  let state := (wordOrders ++ wordOrders.take 2).foldl (round message) state
  Vector.ofFn fun index : Fin 8 =>
    chain[index] ^^^ state.get ⟨index.val, by omega⟩ ^^^ state.get ⟨index.val + 8, by omega⟩

def absorb (chain : Vector UInt64 8) (count : Nat) : List Bytes → Vector UInt64 8
  | [] => chain
  | [block] => compress chain block (count + block.length) true
  | block :: rest => absorb (compress chain block (count + 128) false) (count + 128) rest

def digest (size : Nat) (message : Bytes) : Bytes :=
  let start := initial.set 0 (initial[0] ^^^ 0x01010000 ^^^ UInt64.ofNat size)
  let pieces := if message.isEmpty then [[]] else Bytes.blocks 128 message
  ((absorb start 0 pieces).toList.flatMap fun word => Bytes.ofNatLittle 8 word.toNat).take size

theorem length_digest (size : Nat) (message : Bytes) : (digest size message).length = min size 64 := by
  simp [digest, List.map_const']

end Credential.Hash.Blake2b
