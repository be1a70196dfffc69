namespace SyncSchema.Text

abbrev Ranges := List (Nat × Nat)

def Ranges.has (ranges : Ranges) (n : Nat) : Bool :=
  ranges.any fun range => range.1 ≤ n && n ≤ range.2

def Ranges.start? (ranges : Ranges) (n : Nat) : Option Nat :=
  (ranges.find? fun range => range.1 ≤ n && n ≤ range.2).map (·.1)

end SyncSchema.Text
