import UrlRouting.Demo

/-!
# The demonstration as a program
-/

/-- Prints what the demonstration writes. -/
def main : IO Unit := IO.print (String.ofList UrlRouting.Demo.transcript)
