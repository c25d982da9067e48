import FilterQuery.Expr.Eval
import FilterQuery.Like.Weights
import FilterQuery.Schema.Basic

/-!
A small collection of client entries: its schema, and its documents as a document store holds them.
-/
namespace FilterQuery.Client

/-- Attributes of a client. The display name is left out: some documents hold one, others more. -/
def schema : Schema :=
  .ofNamed [
    ("inum", ⟨.single, false⟩),
    ("clientId", ⟨.single, false⟩),
    ("status", ⟨.single, false⟩),
    ("redirectUri", ⟨.multi, false⟩),
    ("scope", ⟨.multi, true⟩),
    ("expiration", ⟨.single, true⟩),
    ("nickname", ⟨.unknown, true⟩)]

def strings (items : List String) : Json := .array (items.map .string)

def documents : List Json := [
  .object [
    ("clientId", .string "portal"),
    ("displayName", .string "Portal"),
    ("expiration", .int 1700000000),
    ("inum", .string "1001"),
    ("redirectUri", strings ["https://portal.example.org/cb", "https://portal.example.org/alt"]),
    ("scope", strings ["openid", "profile"]),
    ("status", .string "active")],
  .object [
    ("clientId", .string "mobile"),
    ("displayName", strings ["Mobile", "Mobile App"]),
    ("expiration", .int 1800000000),
    ("inum", .string "1002"),
    ("redirectUri", strings ["app://mobile/cb"]),
    ("scope", strings ["openid", "email"]),
    ("status", .string "inactive")],
  .object [
    ("clientId", .string "batch"),
    ("inum", .string "1003"),
    ("scope", strings ["uma_protection"]),
    ("status", .string "active")]]

def matchingInums (e : Expr) : List String :=
  (documents.filter e.accepts).filterMap fun doc => (doc.field? "inum").bind Json.string?

end FilterQuery.Client
