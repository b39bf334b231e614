
import Lsh.Library.Machine
import Lsh.Library.Octets

/-!
# Command lines of subsystems

A model of `subsystem_command_line` of `server_session.c`. The words are put into single quotes, and
runs of single quotes into double quotes. The length of the line is computed before it is written,
and writing beyond it fails an assertion. A newline cannot be quoted, and there is to be no line
then; but only the first argument is looked at, and the writing loop does not get past a newline.
The path of a program that is not absolute is formatted with `%lx/%lz`, where `x` is an option and
`/` is no directive.

## Main results

* `subsystemCommandLine_eq` — when exactly a shell gets the words back
* `subsystemCommandLine_fails` — a relative program, and a newline in the second argument
-/

namespace Lsh.Channel

open Machine List

/-- How `subsystem_command_line` may fail. -/
inductive LineFailure where
  /-- `args->argc > 0`. -/
  | argc
  /-- `fatal` in `ssh_vformat_length`. -/
  | badFormat
  /-- `lsh_string_putc` and `lsh_string_write`: there is room in the string. -/
  | room
  deriving DecidableEq, Repr

/-- `quote_argument_length`. -/
def quoteArgumentLength (arg : Octets) : ℕ :=
  arg.foldl (fun length c => if c = 39 then length + 5 else length + 1) 2

/-- The quotes that are open: double quotes for single ones, and single quotes for the rest. -/
def quoteMark (double : Bool) : UInt8 := if double then 34 else 39

/-- The loops of `quote_argument`, inside of quotes. They do not get past a newline. -/
def quoteOctets (double : Bool) : Octets → Option Octets
  | [] => some [quoteMark double]
  | c :: arg =>
    if c = 10 then none
    else if (c = 39) = double then (c :: ·) <$> quoteOctets double arg
    else ([quoteMark double, quoteMark (!double), c] ++ ·) <$> quoteOctets (!double) arg

/-- Octets are written after those that are there, in a string of the given size. -/
def putOctets (size : ℕ) (s data : Octets) : Except LineFailure Octets := do
  require (s.length + data.length ≤ size) .room
  return s ++ data

/-- `quote_argument`. A loop without end runs out of room. -/
def quoteArgument (size : ℕ) (s arg : Octets) : Except LineFailure Octets :=
  let double : Bool := arg.head? = some 39
  match quoteOctets double arg with
  | none => .error .room
  | some out => putOctets size s (quoteMark double :: out)

/-- The last loop of `subsystem_command_line`. -/
def quoteArguments (size : ℕ) : Octets → List Octets → Except LineFailure Octets
  | s, [] => .ok s
  | s, arg :: args => do
    let s ← putOctets size s [32]
    let s ← quoteArgument size s arg
    quoteArguments size s args

/-- The length that is computed for the line, before it is taken modulo `2 ^ 32`. -/
def lineLength (program : Octets) (args : List Octets) : ℕ :=
  quoteArgumentLength program + args.length + (args.map quoteArgumentLength).sum

/-- `subsystem_command_line`. -/
def subsystemCommandLine : List Octets → Except LineFailure (Option Octets)
  | [] => .error .argc
  | program :: args =>
    if program.head? ≠ some 47 then .error .badFormat
    -- `argv[1]` is looked at in each round
    else if args.head?.any (10 ∈ ·) then .ok none
    else do
      let length := lineLength program args % 2 ^ 32
      let s ← quoteArgument length [] program
      some <$> quoteArguments length s args

/-! ### The shell -/

/-- Where the shell is in a line. -/
inductive Quoting where
  | plain
  | single
  | double

/-- A shell splits a line into words and removes the quotes. `word` is what there is of the current
word. There is no result where the shell would do anything else with an octet. -/
def shellWords : Quoting → Option Octets → Octets → Option (List Octets)
  | .plain, word, [] => some word.toList
  | _, _, [] => none
  | .plain, word, c :: s =>
    if c = 32 then (word.toList ++ ·) <$> shellWords .plain none s
    else if c = 39 then shellWords .single (some (word.getD [])) s
    else if c = 34 then shellWords .double (some (word.getD [])) s
    else none
  | .single, word, c :: s =>
    if c = 39 then shellWords .plain word s else shellWords .single (some (word.getD [] ++ [c])) s
  | .double, word, c :: s =>
    if c = 34 then shellWords .plain word s
    else if c = 36 ∨ c = 92 ∨ c = 96 then none
    else shellWords .double (some (word.getD [] ++ [c])) s

theorem quoteArgumentLength_eq (arg : Octets) :
    quoteArgumentLength arg = 2 + arg.length + 4 * arg.count 39 := by
  have hfold (n : ℕ) : arg.foldl (fun len c => if c = 39 then len + 5 else len + 1) n =
      n + arg.length + 4 * arg.count 39 := by
    induction arg generalizing n with
    | nil => rfl
    | cons c arg ih =>
      rw [foldl_cons, ih, length_cons, count_cons]
      by_cases hc : c = 39 <;> simp [hc] <;> omega
  exact hfold 2

/-- What is written for an argument: not too much, and the shell gets the argument back. -/
theorem quoteOctets_eq {arg : Octets} (double : Bool) (hnl : 10 ∉ arg) :
    ∃ out, quoteOctets double arg = some out ∧
      out.length ≤ 1 + arg.length + 4 * arg.count 39 +
        (if double ∧ arg.head? ≠ some 39 then 2 else 0) ∧
      ∀ word rest, shellWords (if double then .double else .single) (some word) (out ++ rest) =
        shellWords .plain (some (word ++ arg)) rest := by
  induction arg generalizing double with
  | nil => cases double <;> exact ⟨_, rfl, by simp, by simp [quoteMark, shellWords]⟩
  | cons c arg ih =>
    rw [mem_cons, not_or] at hnl
    have hnc := Ne.symm hnl.1
    -- the quotes for the first octet are those that stay open
    obtain ⟨out, heq, hlen, hshell⟩ := ih (decide (c = 39)) hnl.2
    have hle : out.length ≤ 1 + arg.length + 4 * arg.count 39 + (if c = 39 then 2 else 0) := by
      refine hlen.trans (Nat.add_le_add_left ?_ _)
      split_ifs <;> simp_all
    by_cases hdouble : decide (c = 39) = double
    · subst hdouble
      refine ⟨c :: out, by simp [quoteOctets, hnc, heq], ?_, fun word rest => ?_⟩
      · by_cases hc : c = 39 <;> simp [hc] at hle ⊢ <;> omega
      · by_cases hc : c = 39 <;> simp [hc, shellWords] at hshell ⊢ <;> simp [hshell]
    · obtain rfl : double = !decide (c = 39) := Bool.eq_not_iff.mpr (Ne.symm hdouble)
      refine ⟨_, by simp [quoteOctets, hnc, heq]; rfl, ?_, fun word rest => ?_⟩
      · by_cases hc : c = 39 <;> simp [hc] at hle ⊢ <;> omega
      · by_cases hc : c = 39 <;> simp [hc, shellWords, quoteMark] at hshell ⊢ <;> simp [hshell]

theorem quoteOctets_of_newline {arg : Octets} (double : Bool) (hnl : 10 ∈ arg) :
    quoteOctets double arg = none := by
  induction arg generalizing double with
  | nil => cases hnl
  | cons c arg ih =>
    rw [quoteOctets]
    by_cases hc : c = 10
    · rw [if_pos hc]
    · have hrest : 10 ∈ arg := (mem_cons.mp hnl).resolve_left (Ne.symm hc)
      simp [hc, ih _ hrest]

/-! ### The line -/

/-- What is written for an argument, if there is room. -/
def quoted (arg : Octets) : Option Octets :=
  let double : Bool := arg.head? = some 39
  (quoteMark double :: ·) <$> quoteOctets double arg

/-- What is written for the arguments. -/
def quotedArgs : List Octets → Option Octets
  | [] => some []
  | arg :: args => do
    let out ← quoted arg
    let rest ← quotedArgs args
    return 32 :: out ++ rest

/-- The line. -/
def quotedLine (program : Octets) (args : List Octets) : Option Octets := do
  let out ← quoted program
  let rest ← quotedArgs args
  return out ++ rest

section Line

variable {s arg a b : Octets} {args : List Octets} {size : ℕ}

theorem putOctets_of_le (h : s.length + a.length ≤ size) : putOctets size s a = .ok (s ++ a) := by
  simp [putOctets, h]

theorem putOctets_of_not_le (h : ¬s.length + a.length ≤ size) :
    putOctets size s a = .error .room := by
  rw [putOctets, require, if_neg h]
  rfl

theorem putOctets_bind (k : Octets → Except LineFailure Octets)
    (hk : ∀ s, s.length ≤ size → k s = putOctets size s b) :
    (putOctets size s a >>= k) = putOctets size s (a ++ b) := by
  by_cases hroom : s.length + a.length ≤ size
  · rw [putOctets_of_le hroom, ok_bind, hk _ (by rwa [length_append]), putOctets, putOctets,
      length_append, length_append, Nat.add_assoc, append_assoc]
  · rw [putOctets_of_not_le hroom, putOctets_of_not_le (by rw [length_append]; omega)]
    rfl

theorem putOctets_bind_error (k : Octets → Except LineFailure Octets)
    (hk : ∀ s, s.length ≤ size → k s = .error .room) :
    (putOctets size s a >>= k) = .error .room := by
  by_cases hroom : s.length + a.length ≤ size
  · rw [putOctets_of_le hroom]
    exact hk (s ++ a) (by rwa [length_append])
  · rw [putOctets_of_not_le hroom]
    rfl

theorem any_head?_iff : args.head?.any (10 ∈ ·) ↔ ∃ arg ∈ args.head?, 10 ∈ arg := by
  cases args <;> simp

theorem quoteArgument_eq (size : ℕ) (s arg : Octets) :
    quoteArgument size s arg = (quoted arg).elim (.error .room) (putOctets size s) := by
  rw [quoteArgument, quoted]
  cases quoteOctets (decide (arg.head? = some 39)) arg <;> rfl

/-- The loop writes the words one after the other, or runs out of room. -/
theorem quoteArguments_eq (hs : s.length ≤ size) :
    quoteArguments size s args = (quotedArgs args).elim (.error .room) (putOctets size s) := by
  induction args generalizing s with
  | nil => simp [quoteArguments, quotedArgs, putOctets, hs]
  | cons arg args ih =>
    rw [quoteArguments, quotedArgs]
    cases hout : quoted arg with
    | none =>
      refine putOctets_bind_error _ fun s _ => ?_
      rw [quoteArgument_eq, hout]
      rfl
    | some out =>
      cases hrest : quotedArgs args with
      | none =>
        refine putOctets_bind_error _ fun s _ => ?_
        rw [quoteArgument_eq, hout]
        refine putOctets_bind_error _ fun s hs => ?_
        rw [ih hs, hrest]
        rfl
      | some rest =>
        refine putOctets_bind _ fun s _ => ?_
        rw [quoteArgument_eq, hout]
        refine putOctets_bind _ fun s hs => ?_
        rw [ih hs, hrest]
        rfl

/-- **What `subsystem_command_line` returns** for an absolute program. -/
theorem subsystemCommandLine_absolute {program : Octets} (habsolute : program.head? = some 47)
    (hfirst : ¬args.head?.any (10 ∈ ·)) :
    subsystemCommandLine (program :: args) = (quotedLine program args).elim (.error .room)
      fun line => some <$> putOctets (lineLength program args % 2 ^ 32) [] line := by
  rw [subsystemCommandLine, if_neg (not_not.mpr habsolute), if_neg hfirst, quotedLine]
  dsimp only
  rw [quoteArgument_eq]
  cases hout : quoted program with
  | none => rfl
  | some out =>
    cases hrest : quotedArgs args with
    | none =>
      have hno := putOctets_bind_error (s := []) (a := out)
        (fun s => quoteArguments (lineLength program args % 2 ^ 32) s args)
        fun s hs => by rw [quoteArguments_eq hs, hrest]; rfl
      exact (map_bind ..).symm.trans (congrArg (some <$> ·) hno)
    | some rest =>
      have hline := putOctets_bind (s := []) (a := out) (b := rest)
        (fun s => quoteArguments (lineLength program args % 2 ^ 32) s args)
        fun s hs => by rw [quoteArguments_eq hs, hrest]; rfl
      exact (map_bind ..).symm.trans (congrArg (some <$> ·) hline)

theorem quoted_eq_none (hnl : 10 ∈ arg) : quoted arg = none := by
  rw [quoted, quoteOctets_of_newline _ hnl]
  rfl

/-- A shell gets an argument back. -/
theorem quoted_eq_some (hnl : 10 ∉ arg) :
    ∃ out, quoted arg = some out ∧ out.length ≤ quoteArgumentLength arg ∧
      ∀ word rest, shellWords .plain word (out ++ rest) =
        shellWords .plain (some (word.getD [] ++ arg)) rest := by
  rw [quoteArgumentLength_eq]
  obtain ⟨out, heq, hlen, hshell⟩ := quoteOctets_eq (decide (arg.head? = some 39)) hnl
  refine ⟨quoteMark (decide (arg.head? = some 39)) :: out, ?_, ?_, fun word rest => ?_⟩
  · rw [quoted, heq]
    rfl
  · simp at hlen ⊢
    omega
  · by_cases hhead : arg.head? = some 39 <;> simp [hhead, quoteMark, shellWords] at hshell ⊢ <;>
      simp [hshell]

theorem quotedArgs_eq_some (hnl : ∀ arg ∈ args, 10 ∉ arg) :
    ∃ out, quotedArgs args = some out ∧
      out.length ≤ args.length + (args.map quoteArgumentLength).sum ∧
      ∀ word, shellWords .plain (some word) out = some (word :: args) := by
  induction args with
  | nil => exact ⟨[], rfl, by simp, by simp [shellWords]⟩
  | cons arg args ih =>
    rw [forall_mem_cons] at hnl
    obtain ⟨out, heq, hlen, hquoted⟩ := quoted_eq_some hnl.1
    obtain ⟨rest, hrest, hle, hwords⟩ := ih hnl.2
    refine ⟨32 :: out ++ rest, by simp [quotedArgs, heq, hrest], ?_, fun word => ?_⟩
    · simp only [length_append, length_cons, map_cons, sum_cons]
      omega
    · simp [shellWords, hquoted, hwords]

theorem quotedArgs_eq_none (hmem : arg ∈ args) (hnl : 10 ∈ arg) : quotedArgs args = none := by
  induction args with
  | nil => cases hmem
  | cons arg' args ih =>
    rw [quotedArgs]
    rcases mem_cons.mp hmem with rfl | hmem
    · rw [quoted_eq_none hnl]
      rfl
    · rw [ih hmem]
      cases quoted arg' <;> rfl

end Line

/-- **When a shell gets the words back**: exactly if the program is absolute, and the first argument
has a newline, so that there is no line, or no word has one and the line fits into the length that
is computed for it. It does if this length is below `2 ^ 32`. -/
theorem subsystemCommandLine_eq (program : Octets) (args : List Octets) :
    (∃ line, subsystemCommandLine (program :: args) = .ok line ∧
      (line = none ↔ ∃ word ∈ program :: args, 10 ∈ word) ∧
      ∀ s ∈ line, s.length ≤ lineLength program args % 2 ^ 32 ∧
        shellWords .plain none s = some (program :: args)) ↔
    program.head? = some 47 ∧ ((∃ arg ∈ args.head?, 10 ∈ arg) ∨
      (∀ word ∈ program :: args, 10 ∉ word) ∧ (lineLength program args < 2 ^ 32 ∨
        ∀ s ∈ quotedLine program args, s.length ≤ lineLength program args % 2 ^ 32)) := by
  by_cases habsolute : program.head? = some 47
  swap
  · rw [subsystemCommandLine, if_pos habsolute]
    exact iff_of_false nofun fun h => habsolute h.1
  by_cases hfirst : args.head?.any (10 ∈ ·)
  · obtain ⟨arg, harg, hnl⟩ : ∃ arg ∈ args.head?, 10 ∈ arg := any_head?_iff.mp hfirst
    refine iff_of_true ⟨none, ?_, iff_of_true rfl ⟨arg, ?_, hnl⟩, nofun⟩
      ⟨habsolute, .inl ⟨arg, harg, hnl⟩⟩
    · rw [subsystemCommandLine, if_neg (not_not.mpr habsolute), if_pos hfirst]
    · exact mem_cons_of_mem _ (mem_of_mem_head? harg)
  have hfirst' := mt any_head?_iff.mpr hfirst
  rw [subsystemCommandLine_absolute habsolute hfirst]
  by_cases hnl : ∀ word ∈ program :: args, 10 ∉ word
  · have hnl' := forall_mem_cons.mp hnl
    obtain ⟨out, heq, hlen, hquoted⟩ := quoted_eq_some hnl'.1
    obtain ⟨rest, hrest, hle, hwords⟩ := quotedArgs_eq_some hnl'.2
    have hline : quotedLine program args = some (out ++ rest) := by
      rw [quotedLine, heq, hrest]
      rfl
    have hshort : (out ++ rest).length ≤ lineLength program args := by
      rw [length_append, lineLength]
      omega
    have hfits : (lineLength program args < 2 ^ 32 ∨
        ∀ s ∈ quotedLine program args, s.length ≤ lineLength program args % 2 ^ 32) ↔
        (out ++ rest).length ≤ lineLength program args % 2 ^ 32 := by
      rw [hline]
      constructor
      · rintro (hlt | hall)
        · rwa [Nat.mod_eq_of_lt hlt]
        · exact hall _ rfl
      · rintro h
        exact .inr fun s hs => by cases hs; exact h
    rw [hfits, hline]
    constructor
    · rintro ⟨line, hok, -, -⟩
      refine ⟨habsolute, .inr ⟨hnl, ?_⟩⟩
      by_contra hroom
      rw [Option.elim_some, putOctets_of_not_le (by simpa using hroom)] at hok
      cases hok
    · rintro ⟨-, hcases⟩
      obtain ⟨-, hroom⟩ := hcases.resolve_left hfirst'
      refine ⟨some (out ++ rest), ?_, iff_of_false nofun ?_, ?_⟩
      · rw [Option.elim_some, putOctets_of_le (by simpa using hroom)]
        rfl
      · rintro ⟨word, hword, hnewline⟩
        exact hnl word hword hnewline
      · rintro _ ⟨rfl⟩
        exact ⟨hroom, by simp [hquoted, hwords]⟩
  · -- the loop does not get past the newline
    have hnone : quotedLine program args = none := by
      push Not at hnl
      obtain ⟨word, hword, hnewline⟩ := hnl
      rw [quotedLine]
      rcases mem_cons.mp hword with rfl | hmem
      · rw [quoted_eq_none hnewline]
        rfl
      · rw [quotedArgs_eq_none hmem hnewline]
        cases quoted program <;> rfl
    rw [hnone]
    refine iff_of_false nofun ?_
    rintro ⟨-, hcases⟩
    exact hnl (hcases.resolve_left hfirst').1

/-- A program that is not absolute, and a newline in the second argument or in the program. -/
theorem subsystemCommandLine_fails :
    subsystemCommandLine [[97]] = .error .badFormat ∧
      subsystemCommandLine [[47, 97], [98], [10]] = .error .room ∧
      subsystemCommandLine [[47, 10]] = .error .room :=
  ⟨rfl, rfl, rfl⟩

end Lsh.Channel
