import CheckConstraints.Fault
import CheckConstraints.Settings
import CheckConstraints.Text.Word

/-!
Database addresses: a scheme that names the dialect and the driver, and what the driver makes of the
rest.
-/

namespace CheckConstraints

structure Address where
  url : String
  dialect : String
  driver : String
deriving DecidableEq, Repr

namespace Address

/-- Reads an address: word characters and plus signs, and then `://`. The dialect comes before the
first plus sign and the driver after it. -/
def parse (url : String) : Except Fault Address :=
  let scheme := url.toList.takeWhile fun c => Text.isWord c || c == '+'
  let rest := url.toList.drop scheme.length
  if scheme.isEmpty || rest.take 3 != [':', '/', '/'] then .error .unreadableAddress
  else .ok
    { url
      dialect := String.ofList (scheme.takeWhile (· != '+'))
      driver := String.ofList ((scheme.dropWhile (· != '+')).drop 1) }

def resolve (settings : Settings) (url : Option String) : Except Fault Address :=
  match url with
  | none | some "" => parse settings.databaseUrl
  | some url => parse url

end Address

end CheckConstraints
