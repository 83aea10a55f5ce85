import Chip8.HostValue
import Chip8.Text.Hex

/-!
# Failures

Every way in which an operation can be refused, by its cause. The first six are *fatal errors* of
the machine; the rest are refusals of an argument. `Failure.message` has the wording.
-/

namespace Chip8

/-- The cause of a refusal. -/
inductive Failure
  | invalidOpcode (word address : Int)
  | stackOverflow (address : Int)
  | stackUnderflow (address : Int)
  | memoryOutOfBounds (address : Int) (pc : Option Int)
  | romTooLarge (size : Nat) (capacity : HostValue)
  | invalidKey (key : HostValue)
  | unknownFaultCode (code : Int)
  | speedNotPositive (speed : HostValue)
  | nothingToReplay
  | wrongKeyCount (count : Nat)
  | scaleTooSmall (scale : HostValue)
  | unknownScheme (name : Text) (available : List String)
  | unknownLogLevel (name : Text) (available : List String)
  | unknownImageFormat (file : Text)
  | readOnlyImageFormat (file : Text)
  | unsupportedImageFormat (file : Text)
  | colourRefused (file : Text)
  | unreadableImage (file : Text)
  | missingInterpreter (file : Text)
  | tooManyPixels
  | truncatedImage (file : Text)
  | undecodedImage (file : Text)
  | sideTooLong (file : Text)
  | fieldTooSmall
  | noRows
  | unwritableName (file : Text)
  | missingFile (name : Text)
  | directoryAsFile (name : Text)
  | fileAsDirectory (name : Text)
  | nameTooLong (name : Text)
  | nullInName
  | halfInName (name : Text) (position : Nat)
  | outOfRange
  | outOfMemory
  | malformed
  | wrongType
  | notText

namespace Failure

/-- The failure whose message shows a value, or the refusal to show it if it does not fit. -/
def showing (failure : HostValue → Failure) (v : HostValue) : Failure :=
  if v.fitsMessage then failure v else malformed

/-- The failure is a fatal error of the machine and not a refused argument. -/
def isFatal : Failure → Bool
  | invalidOpcode .. | stackOverflow .. | stackUnderflow .. | memoryOutOfBounds .. => true
  | romTooLarge .. | invalidKey .. => true
  | _ => false

/-- The refusal of a program by its size and the room for it, as they are shown. -/
def romTooLargeMessage (size capacity : Text) : Text :=
  "ROM of " ++ size ++ " bytes does not fit in " ++ capacity ++ " bytes of program memory"

/-- A list of names as a message shows it. -/
def nameList (names : List String) : Text := "[" ++ Text.quotedList (names.map Text.ofString) ++ "]"

/-- The refusal of a name with halves of pairs in it, from a position on. -/
def halfInNameMessage (name : Text) (position : Nat) : Text :=
  let halves := (name.drop position).takeWhile (·.isHalf)
  let place : Text :=
    match halves with
    | [half] => " " ++ Text.quoted [half] ++ s!" in position {position}"
    | _ => s!"s in position {position}-{position + halves.length - 1}"
  "'utf-8' codec can't encode character" ++ place ++ ": surrogates not allowed"

/-- The wording of a failure. -/
def message : Failure → Text
  | invalidOpcode word address =>
    "Invalid opcode 0x" ++ Text.hex 4 word ++ " at 0x" ++ Text.hex 3 address
  | stackOverflow address => "Stack overflow on call at 0x" ++ Text.hex 3 address
  | stackUnderflow address => "Stack underflow on return at 0x" ++ Text.hex 3 address
  | memoryOutOfBounds address pc =>
    "Invalid memory address 0x" ++ Text.hex 4 address ++
      match pc with
      | some pc => " (instruction at 0x" ++ Text.hex 3 pc ++ ")"
      | none => ""
  | romTooLarge size capacity => romTooLargeMessage (toString size) capacity.plain
  | invalidKey key => "Invalid key index: " ++ key.render
  | unknownFaultCode code => s!"{code} is not a fault code"
  | speedNotPositive speed => "instructions_per_second must be positive, got " ++ speed.render
  | nothingToReplay => "sequence_source needs a non-empty flat sequence of bytes"
  | wrongKeyCount count => s!"Expected 16 key states, got {count}"
  | scaleTooSmall scale => "scale must be at least 1, got " ++ scale.render
  | unknownScheme name available =>
    "Unknown color scheme '" ++ name ++ "'. Available: " ++ nameList available
  | unknownLogLevel name available =>
    "Unknown log level '" ++ name ++ "'. Available: " ++ nameList available
  | unknownImageFormat file => "unknown image format: " ++ Text.quoted file
  | readOnlyImageFormat file => "images like this are only read: " ++ Text.quoted file
  | unsupportedImageFormat file => "images like this are not written: " ++ Text.quoted file
  | colourRefused file => "images like this have no such colours: " ++ Text.quoted file
  | unreadableImage file => "cannot identify image file " ++ Text.quoted file
  | missingInterpreter file => "nothing to read the program in an image: " ++ Text.quoted file
  | tooManyPixels => "too many pixels to be read"
  | truncatedImage file => "pixels are missing in an image file: " ++ Text.quoted file
  | undecodedImage file => "pixels cannot be decoded: " ++ Text.quoted file
  | sideTooLong file => "images like this have no such size: " ++ Text.quoted file
  | fieldTooSmall => "number that does not fit its field"
  | noRows => "image without rows"
  | unwritableName file => "name that cannot be written into the image: " ++ Text.quoted file
  | missingFile name => "[Errno 2] No such file or directory: " ++ Text.quoted name
  | directoryAsFile name => "[Errno 21] Is a directory: " ++ Text.quoted name
  | fileAsDirectory name => "[Errno 20] Not a directory: " ++ Text.quoted name
  | nameTooLong name => "[Errno 36] File name too long: " ++ Text.quoted name
  | nullInName => "embedded null byte"
  | halfInName name position => halfInNameMessage name position
  | outOfRange => "number out of range"
  | outOfMemory => "not enough memory"
  | malformed => "malformed value"
  | wrongType => "value of a wrong type"
  | notText => "not a text"

end Failure

end Chip8
