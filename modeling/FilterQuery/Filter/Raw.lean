import FilterQuery.Filter.Basic

/-!
Turning RAW text into a filter.

A parser is any function from text to a filter or a reason why there is none. The simple one reads a
single assertion in directory syntax.
-/
namespace FilterQuery

inductive RawError where
  | unavailable
  | invalid (text : String)
deriving DecidableEq, Repr, Inhabited

def RawError.message : RawError → String
  | .unavailable => "no raw filter parser is configured"
  | .invalid text => "invalid filter syntax: " ++ text

abbrev RawParser := String → Except RawError Filter

namespace RawParser

def none : RawParser := fun _ => .error .unavailable

def splitAssertion : List Char → Option (List Char × List Char)
  | [] => Option.none
  | '=' :: value => some ([], value)
  | c :: rest => (splitAssertion rest).map fun (name, value) => (c :: name, value)

def unwrap? : List Char → Option (List Char)
  | '(' :: rest =>
    match rest.getLast? with
    | some ')' => some rest.dropLast
    | _ => Option.none
  | _ => Option.none

/-- Reads an assertion `(name=value)`. A lone star as value asks whether the attribute is there; any
other value is compared as a string. -/
def assertion? (text : List Char) : Option Filter :=
  match (unwrap? text).bind splitAssertion with
  | some ([], _) => Option.none
  | some (name, ['*']) => some (.presence (String.ofList name))
  | some (name, value) => some (.equality (String.ofList name) (.string (String.ofList value)))
  | _ => Option.none

def simple : RawParser := fun text =>
  match assertion? text.toList with
  | some f => .ok f
  | _ => .error (.invalid text)

end RawParser

end FilterQuery
