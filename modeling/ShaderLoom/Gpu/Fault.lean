/-!
# Faults of a device

The ways in which a device can refuse a call for reasons that have nothing to do with the
shaders it is given.  A shader that does not compile is no fault: it is reported through its
status.
-/

namespace ShaderLoom

/-- Why a device refused a call. -/
inductive DeviceFault where
  | contextLost
  | outOfMemory
  | refused (call message : String)
  deriving DecidableEq, Repr, Inhabited

/-- The wording of a device fault. -/
def DeviceFault.message : DeviceFault → String
  | contextLost => "GPU context lost"
  | outOfMemory => "GPU out of memory"
  | refused call message => s!"`{call}` failed: {message}"

end ShaderLoom
