import CriteriaSearch.Text.Hexadecimal

/-!
# Octets as text

Two written forms of the octets of a text: percent-encoding, which keeps the characters that an
address may hold and writes every other octet in upper-case hexadecimal, and the base-64 form of
credentials.
-/

namespace CriteriaSearch.Http

/-- The octets of a text. -/
def octets (s : String) : List Nat :=
  s.toUTF8.toList.map UInt8.toNat

/-- An octet behind a percent sign. -/
def percentOctet (n : Nat) : List Char :=
  ['%', Text.upperHexDigit (n / 16), Text.upperHexDigit (n % 16)]

/-- Writes the octets of the characters that are not kept behind percent signs.  Only characters of
the ASCII range can be kept. -/
def percentEncode (keep : Char → Bool) (s : List Char) : List Char :=
  s.flatMap fun c =>
    if c.toNat < 0x80 && keep c then [c]
    else (octets (String.singleton c)).flatMap percentOctet

/-- The octets of a text, with percent signs before two digits taken as octets. -/
def percentDecode : List Char → List Nat
  | [] => []
  | '%' :: a :: b :: rest =>
    match Text.hexValue? a, Text.hexValue? b with
    | some x, some y => (x * 16 + y) :: percentDecode rest
    | _, _ => '%'.toNat :: percentDecode (a :: b :: rest)
  | c :: rest => octets (String.singleton c) ++ percentDecode rest

/-- The text of octets, where they are the octets of a text. -/
def textOfOctets? (ns : List Nat) : Option String :=
  String.fromUTF8? (ByteArray.mk (ns.map UInt8.ofNat).toArray)

/-- The sixty-four digits. -/
def base64Digits : List Char :=
  "ABCDEFGHIJKLMNOPQRSTUVWXYZabcdefghijklmnopqrstuvwxyz0123456789+/".toList

/-- One digit. -/
def base64Digit (n : Nat) : Char :=
  base64Digits.getD n '='

/-- The base-64 form of octets, padded to full groups. -/
def base64 : List Nat → List Char
  | [] => []
  | [a] => [base64Digit (a / 4), base64Digit (a % 4 * 16), '=', '=']
  | [a, b] =>
    [base64Digit (a / 4), base64Digit (a % 4 * 16 + b / 16), base64Digit (b % 16 * 4), '=']
  | a :: b :: c :: rest =>
    base64Digit (a / 4) :: base64Digit (a % 4 * 16 + b / 16) ::
      base64Digit (b % 16 * 4 + c / 64) :: base64Digit (c % 64) :: base64 rest

end CriteriaSearch.Http
