/-!
URIs in their written form. Two URIs name the same document exactly when they
are written alike, which is when their parts are.
-/

namespace Bilingual

/-- Who serves a document: the part of a URI behind two slashes. -/
structure Authority where
  /-- A user name and perhaps a password, escaped and joined by a colon. -/
  userinfo : String
  host : String
  /-- A port other than the usual one of the scheme. -/
  port : Option Nat
  deriving DecidableEq, Repr

structure Uri where
  scheme : String
  authority : Option Authority
  path : String
  query : Option String
  fragment : Option String
  deriving DecidableEq, Repr

namespace Uri

def Authority.text (a : Authority) : String :=
  (if a.userinfo.isEmpty then "" else a.userinfo ++ "@") ++ a.host ++
    match a.port with
    | none => ""
    | some n => ":" ++ toString n

/-- The written form. A path that begins with two slashes is kept apart from an
authority by a dot. -/
def text (u : Uri) : String :=
  u.scheme ++ ":" ++
    (match u.authority with
      | some a => "//" ++ Authority.text a
      | none => if u.path.startsWith "//" then "/." else "") ++
    u.path ++
    (match u.query with
      | some q => "?" ++ q
      | none => "") ++
    (match u.fragment with
      | some f => "#" ++ f
      | none => "")

end Uri

end Bilingual
