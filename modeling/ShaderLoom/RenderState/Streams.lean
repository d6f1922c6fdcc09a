import ShaderLoom.Text.Blank
import ShaderLoom.Text.Cut
import ShaderLoom.Text.Numeral

/-!
# Vertex streams

The set of vertex data that a geometry carries, as a word of flags.  Eight bits have names; the
others are kept as they are.

A set is written as the names of its flags and, if unnamed bits are left, their hexadecimal
value, joined by bars.  Reading accepts the parts in any order and with any blanks around them.

## Main Definitions

* `Streams` — a set of flags
* `Streams.texcoord?` — the flag of a set of texture coordinates
* `Streams.text`, `Streams.ofText?` — the written form
-/

namespace ShaderLoom

/-- A set of vertex streams. -/
structure Streams where
  bits : UInt32
  deriving DecidableEq, Repr, Inhabited

namespace Streams

def position : Streams := ⟨1⟩
def normal : Streams := ⟨2⟩
def tangent : Streams := ⟨4⟩
def color : Streams := ⟨8⟩
def texcoord0 : Streams := ⟨16⟩
def texcoord1 : Streams := ⟨32⟩
def texcoord2 : Streams := ⟨64⟩
def texcoord3 : Streams := ⟨128⟩

/-- The named streams, in the order in which they are written. -/
def named : List (String × Streams) :=
  [("POSITION", position), ("NORMAL", normal), ("TANGENT", tangent), ("COLOR", color),
    ("TEXCOORD0", texcoord0), ("TEXCOORD1", texcoord1), ("TEXCOORD2", texcoord2),
    ("TEXCOORD3", texcoord3)]

/-- No streams. -/
def empty : Streams := ⟨0⟩

/-- The streams of either set. -/
def union (a b : Streams) : Streams := ⟨a.bits ||| b.bits⟩

/-- The streams of both sets. -/
def inter (a b : Streams) : Streams := ⟨a.bits &&& b.bits⟩

/-- Whether all streams of `b` are in `a`. -/
def contains (a b : Streams) : Bool := a.bits &&& b.bits == b.bits

/-- The streams of a geometry about which nothing is said. -/
def standard : Streams := position.union normal

/-- The stream that holds a given set of texture coordinates. -/
def texcoord? (set : UInt32) : Option Streams :=
  if set = 0 then some texcoord0
  else if set = 1 then some texcoord1
  else if set = 2 then some texcoord2
  else if set = 3 then some texcoord3
  else none

/-- The bits that have no name. -/
def unnamedBits (streams : Streams) : UInt32 :=
  streams.bits &&& 0xFFFFFF00

/-- The written form of a set of streams. -/
def text (streams : Streams) : String :=
  let names := (named.filter fun entry => streams.contains entry.2).map Prod.fst
  let rest := streams.unnamedBits
  " | ".intercalate (names ++ if rest = 0 then [] else ["0x" ++ Text.hexDigits 1 rest.toNat])

/-- The set of streams that one part of a written form stands for. -/
def ofPart? : List Char → Option Streams
  | '0' :: 'x' :: digits => (Text.readHex32 digits).map Streams.mk
  | name => named.lookup (String.ofList name)

/-- The set of streams with a given written form. -/
def ofText? (text : String) : Option Streams :=
  let body := Text.trim text.toList
  if body.isEmpty then some empty
  else
    match ((Text.cutAt '|' body).map Text.trim).mapM ofPart? with
    | none => none
    | some parts => some (parts.foldl union empty)

end Streams
end ShaderLoom
