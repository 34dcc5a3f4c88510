import Retention.Codec.Reference
import Retention.RootKey

/-!
# Root keys as JSON

A root is an object with the one member `root`, and the unreachable bucket a bare name.
-/

namespace Retention.RootKey

open Json

def toJson : RootKey → Json
  | .root id => .ofMembers [("root", id.toJson)]
  | .unreachable => .text "unreachable"

def ofJson : Json → Decoded RootKey :=
  choice ["root", "unreachable"] fun name content =>
    if name = "root" then
      match content with
      | some json => (InstanceId.ofJson json).map .root
      | none => refuse (.invalidType .unitVariant "newtype variant")
    else withoutContent .unreachable content

end Retention.RootKey
