/-!
# Modifiers

A declaration carries its modifiers as a set of bits. Several access bits may be set at once;
`Modifiers.visibility` then takes the first one in the order of `accessPrecedence`.
-/

namespace CodeIndex

/-- Where a declaration can be used from. -/
inductive Visibility where
  | everywhere
  | subtypes
  | ownType
  | ownPackage
deriving DecidableEq, Repr

/-- The word for a visibility in records. -/
def Visibility.label : Visibility → String
  | .everywhere => "public"
  | .subtypes => "protected"
  | .ownType => "private"
  | .ownPackage => "package_private"

/-- The modifier bits of a declaration. -/
structure Modifiers where
  bits : UInt32 := 0
deriving DecidableEq, Repr

namespace Modifiers

/-- The bit of `public`. -/
def publicBit : UInt32 := 0x0001

/-- The bit of `private`. -/
def privateBit : UInt32 := 0x0002

/-- The bit of `protected`. -/
def protectedBit : UInt32 := 0x0004

/-- The bit of `static`. -/
def staticBit : UInt32 := 0x0008

/-- The bit of `final`. -/
def finalBit : UInt32 := 0x0010

/-- The bit of `abstract`. -/
def abstractBit : UInt32 := 0x0400

/-- The access bits, the strongest first. -/
def accessPrecedence : List (UInt32 × Visibility) :=
  [(publicBit, .everywhere), (protectedBit, .subtypes), (privateBit, .ownType)]

/-- The modifiers that every enum constant has. -/
def enumConstant : Modifiers := ⟨publicBit ||| staticBit ||| finalBit⟩

/-- Every bit of the flag is set. -/
def contains (modifiers : Modifiers) (flag : UInt32) : Bool := modifiers.bits &&& flag == flag

/-- The visibility of the first access bit that is set; without one, the own package. -/
def visibility (modifiers : Modifiers) : Visibility :=
  match accessPrecedence.find? fun entry => modifiers.contains entry.1 with
  | some entry => entry.2
  | none => .ownPackage

/-- The declaration is final. -/
def isFinal (modifiers : Modifiers) : Bool := modifiers.contains finalBit

/-- The declaration is static. -/
def isStatic (modifiers : Modifiers) : Bool := modifiers.contains staticBit

/-- The declaration is abstract. -/
def isAbstract (modifiers : Modifiers) : Bool := modifiers.contains abstractBit

end Modifiers

end CodeIndex
