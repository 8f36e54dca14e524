import LiabilityProof.Text.Numeral

/-!
# Why a URL is refused

Splitting a URL never fails but for its authority: the brackets of an address, characters that
only look harmless, and the port.
-/

namespace LiabilityProof

/-- What is wrong with a URL. -/
inductive UrlFault where
  /-- A bracket stands alone. -/
  | loneBracket
  /-- What stands in brackets claims a version and is no address of one. -/
  | badVersion
  /-- What stands in brackets is no address. -/
  | notAddress (text : List Char)
  /-- What stands in brackets is an address that takes none. -/
  | needlessBrackets
  /-- A character of the authority is another form of a delimiter. -/
  | disguisedDelimiter (authority : List Char)
  /-- The port is no number. -/
  | badPort (text : List Char)
  /-- The port has too many digits to be looked at. -/
  | longPort (digits : Nat)
  /-- The port is too large. -/
  | portTooLarge
  /-- A base has a query or a fragment. -/
  | notABase
deriving DecidableEq

namespace UrlFault

/-- The words for a fault. -/
def message : UrlFault → String
  | loneBracket => "Invalid IPv6 URL"
  | badVersion => "IPvFuture address is invalid"
  | notAddress text =>
    String.ofList (Text.quoted text) ++ " does not appear to be an IPv4 or IPv6 address"
  | needlessBrackets => "An IPv4 address cannot be in brackets"
  | disguisedDelimiter authority =>
    "netloc '" ++ String.ofList authority ++
      "' contains invalid characters under NFKC normalization"
  | badPort text =>
    "Port could not be cast to integer value as " ++ String.ofList (Text.quoted text)
  | longPort digits => (NumeralFault.tooManyDigits digits).message
  | portTooLarge => "Port out of range 0-65535"
  | notABase => "base url must not contain a query string or fragment"

end UrlFault

end LiabilityProof
