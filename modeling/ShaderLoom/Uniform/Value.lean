import ShaderLoom.Glsl.Basic
import ShaderLoom.Text.Numeral

/-!
# Uniform values

The values that are uploaded to uniforms.  Floating-point numbers are passed on by their bits
and never computed with.
-/

namespace ShaderLoom

/-- A single-precision number, by its bits in the IEEE format. -/
structure Binary32 where
  bits : UInt32
  deriving DecidableEq, Repr, Inhabited

namespace Binary32

def zero : Binary32 := ⟨0x00000000⟩
def one : Binary32 := ⟨0x3f800000⟩
def minusOne : Binary32 := ⟨0xbf800000⟩
/-- The number nearest to 0.9. -/
def nineTenths : Binary32 := ⟨0x3f666666⟩
/-- The number nearest to 0.2. -/
def oneFifth : Binary32 := ⟨0x3e4ccccd⟩

/-- The eight hexadecimal digits of the bits. -/
def hex (x : Binary32) : String :=
  Text.hexDigits 8 x.bits.toNat

end Binary32

/-- A value for a uniform. -/
inductive UniformValue where
  | float (value : Binary32)
  | int (value : Int32)
  | vec2 (value : Vector Binary32 2)
  | vec3 (value : Vector Binary32 3)
  | vec4 (value : Vector Binary32 4)
  | mat3 (value : Vector Binary32 9)
  | mat4 (value : Vector Binary32 16)
  | vec4Array (rows : List (Vector Binary32 4))
  /-- The texture unit that a sampler reads. -/
  | sampler (unit : Int32)
  deriving DecidableEq, Repr

namespace UniformValue

/-- The data type that a value is made for. -/
def type : UniformValue → DataType
  | float _ => .float
  | int _ => .int
  | vec2 _ => .vec2
  | vec3 _ => .vec3
  | vec4 _ => .vec4
  | mat3 _ => .mat3
  | mat4 _ => .mat4
  | vec4Array _ => .vec4
  | sampler _ => .sampler2D

/-- The name of the shape of a value. -/
def label : UniformValue → String
  | float _ => "Float"
  | int _ => "Int"
  | vec2 _ => "Vec2"
  | vec3 _ => "Vec3"
  | vec4 _ => "Vec4"
  | mat3 _ => "Mat3"
  | mat4 _ => "Mat4"
  | vec4Array _ => "Vec4Array"
  | sampler _ => "Sampler"

/-- The texts of the numbers in a value. -/
def components : UniformValue → List String
  | float value => [value.hex]
  | int value => [toString value.toInt]
  | vec2 value => value.toList.map Binary32.hex
  | vec3 value => value.toList.map Binary32.hex
  | vec4 value => value.toList.map Binary32.hex
  | mat3 value => value.toList.map Binary32.hex
  | mat4 value => value.toList.map Binary32.hex
  | vec4Array rows => rows.flatMap fun row => row.toList.map Binary32.hex
  | sampler unit => [toString unit.toInt]

/-- The text of a value in a trace. -/
def text (value : UniformValue) : String :=
  let numbers := ",".intercalate value.components
  s!"{value.label}[{numbers}]"

end UniformValue
end ShaderLoom
