import ParseKit.Fault
import ParseKit.Toml.Reader

/-!
Decoders of configurations. What is done with a configuration does not depend on how its content is decoded.
-/

namespace ParseKit

namespace Toml

/-- Why there is no document. -/
inductive Trouble where
  /-- the content is none -/
  | malformed
  /-- the decoder fails -/
  | fault (fault : Fault)

abbrev Decoder := List UInt8 → Except Trouble Table

/-- The document that a content is in UTF-8. -/
def decode : Decoder := fun content =>
  match Utf8.decode? content with
  | .error fault => .error (.fault (.undecodable fault))
  | .ok text =>
    match ofText text with
    | .ok document => .ok document
    | .error .malformed => .error .malformed
    | .error (.integerTooLong digits) => .error (.fault (.integerTooLong digits))

end Toml

end ParseKit
