import CommandLink.Bytes

/-!
# Queries as they are read

A legacy command is a query. Who receives one reads flags, the name of a collection up to the first
zero byte, two numbers that tell which documents are asked for, and then the document that asks.
-/

namespace CommandLink

/-- What is read of a query, and where in its body the document starts. -/
structure LegacyQuery where
  flags : Int32
  name : Bytes
  skip : Int32
  count : Int32
  position : Nat
  document : Bytes
  deriving DecidableEq, Repr

namespace LegacyQuery

/-- How many bytes the flags take. -/
def flagsSize : Nat := 4

/-- How many bytes the two numbers take. -/
def numbersSize : Nat := 8

/-- Read the body of a query. Without a zero byte there is no name, and both numbers have to be
there. -/
def ofBody? (body : Bytes) : Option LegacyQuery :=
  let named := body.drop flagsSize
  let name := named.takeWhile (· ≠ 0)
  match named.dropWhile (· ≠ 0) with
  | [] => none
  | _ :: rest =>
    if rest.length < numbersSize then none
    else
      some
        { flags := body.toInt32
          name
          skip := Bytes.toInt32 rest
          count := Bytes.toInt32 (rest.drop 4)
          position := flagsSize + name.length + 1 + numbersSize
          document := rest.drop numbersSize }

end LegacyQuery

end CommandLink
