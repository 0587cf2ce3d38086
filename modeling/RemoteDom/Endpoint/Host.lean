import RemoteDom.Endpoint.Address
import RemoteDom.Endpoint.Label

/-! Names of hosts in the form in which they are compared: small letters, ASCII only, addresses in their
shortest form. -/

namespace RemoteDom.Host

/-- The bytes of a text in which a percent sign and two hexadecimal digits stand for one byte. -/
def percentDecoded : List Char → List UInt8
  | '%' :: a :: b :: rest =>
      match Text.hexValue? a, Text.hexValue? b with
      | some high, some low => UInt8.ofNat (high * 16 + low) :: percentDecoded rest
      | _, _ => '%'.toUInt8 :: percentDecoded (a :: b :: rest)
  | c :: rest => (String.singleton c).toUTF8.toList ++ percentDecoded rest
  | [] => []

/-- The name of a domain in ASCII. If one of its labels has something that is written from right to
left, each label has to run in one direction. -/
def domain? (name : List Char) : Option (List Char) := do
  let images ← name.mapM Mapping.image?
  let folded := Text.compose images.flatten
  if folded.any Label.isForbiddenInDomain then none
  else
    let labels ← (Address.splitAt '.' folded).mapM Label.ofText?
    if labels.any Label.hasLeftward && !labels.all Label.runsOneWay then none
    else some (['.'].intercalate (labels.map Label.written))

/-- The host of an address that has to name one: an address in brackets, an address in numbers or a
domain. -/
def ofText? (text : List Char) : Option (List Char) :=
  match text with
  | '[' :: rest =>
      if rest.getLast? = some ']' then
        (Address.version6? rest.dropLast).map fun address => '[' :: address ++ [']']
      else none
  | _ =>
      match String.fromUTF8? (ByteArray.mk (percentDecoded text).toArray) with
      | none => none
      | some decoded =>
          match domain? decoded.toList with
          | none => none
          | some name =>
              if name.isEmpty then none
              else if Address.endsInNumber name then Address.version4? name
              else some name

/-- Whether a host is acceptable in an address of an unknown kind. -/
def isOpaque (text : List Char) : Bool :=
  match text with
  | '[' :: rest => rest.getLast? == some ']' && (Address.version6? rest.dropLast).isSome
  | _ => !text.any Label.isForbidden

end RemoteDom.Host
