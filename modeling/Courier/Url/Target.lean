import Courier.Url.Parser

/-!
# URLs in messages

A message can carry most URLs, but not all: the host must be written without escapes, quotes, braces
and the grave accent, and there is a greatest length.  A URL without an authority is carried only
if it looks like one.
-/

namespace Courier.Url

/-- Characters that stand for themselves in an authority. -/
def isAuthorityChar (c : Char) : Bool :=
  isLetter c || Text.isDigit c || c == '!' || c == '$' || c == '&' || c == '\'' || c == '('
    || c == ')' || c == '*' || c == '+' || c == ',' || c == '-' || c == '.' || c == ':'
    || c == ';' || c == '=' || c == '_' || c == '~'

/-- Whether a text is an authority: characters of one, escapes only in front of the last `@`, and
behind it a single colon at most. -/
def looksLikeAuthority (cs : List Char) : Bool :=
  let (user, host) := (Text.splitAtLast? '@' cs).getD ([], cs)
  (user.all fun c => isAuthorityChar c || c == '%' || c == '@')
    && host.all isAuthorityChar && !host.isEmpty && host.count ':' ≤ 1

/-- Whether the text of a host can be carried. -/
def Host.isSendable : Host → Bool
  | .domain name =>
    !name.isEmpty
      && !(name.any fun c => c == '"' || c == '\x60' || c == '\x7b' || c == '\x7d' || c == '%')
  | _ => true

/-- The longest URL that can be carried. -/
def maxLength : Nat := 65534

/-- Whether a message can carry a URL. -/
def isSendable (u : Url) : Bool :=
  u.text.length ≤ maxLength &&
    (match u.authority with
      | some a => a.host.isSendable
      | none => looksLikeAuthority u.text)

end Courier.Url
