namespace LoginGateway.Text.Terminal

inductive Mode where
  | text
  /-- A sequence of which so far only the escape has come. -/
  | escape
  /-- An escape followed by other signs than brackets. -/
  | escapeSigns
  /-- A sequence in a bracket: parameters, then one letter that ends it. -/
  | parameters
  /-- A title, which a bell ends. -/
  | title
  /-- A string for a device, of which only the start has come. -/
  | device
  /-- The parameters before a string for a device. -/
  | deviceParameters
  /-- The signs between the parameters and a string for a device. -/
  | deviceSigns
  /-- A string that another control sequence ends, or the octet of a terminator. -/
  | string
  deriving DecidableEq

namespace Mode

/-- Blanks also end a sequence that they stand in, unless it is a title or a string. -/
def isBlankControl (c : Char) : Bool :=
  c == '\t' || c == '\n' || c == '\x0c' || c == '\r'

def isControl (c : Char) : Bool := c.toNat < 32 || c.toNat == 127

def isSkipped (c : Char) : Bool := isControl c || 128 ≤ c.toNat

/-- One octet of the character is the one that ends a string. -/
def hasTerminator (c : Char) : Bool := (String.utf8EncodeChar c).contains 0x9C

def ofEscaped (c : Char) : Mode :=
  if c = '[' then parameters
  else if c = ']' then title
  else if c = 'P' then device
  else if ['X', '^', '_'].contains c then string
  else if c.toNat < 48 then escapeSigns
  else text

def after (mode : Mode) (c : Char) : Mode :=
  match mode with
  | text => text
  | escape => if isSkipped c then escape else ofEscaped c
  | escapeSigns => if isSkipped c || c.toNat < 48 then escapeSigns else text
  | parameters => if isSkipped c || c.toNat < 64 then parameters else text
  | title => if c = '\x07' then text else title
  | device =>
    if isSkipped c then device
    else if c.toNat < 48 then deviceSigns
    else if c.toNat < 64 then deviceParameters
    else string
  | deviceParameters =>
    if isSkipped c then deviceParameters
    else if c.toNat < 48 then deviceSigns
    else if c.toNat < 60 then deviceParameters
    else string
  | deviceSigns => if isSkipped c || c.toNat < 48 then deviceSigns else string
  | string => if hasTerminator c then text else string

end Mode

def step (mode : Mode) (c : Char) : Mode × Bool :=
  if c = '\x1b' then (.escape, false)
  else if c = '\x18' || c = '\x1a' then (.text, false)
  else
    match mode with
    | .text => (.text, !Mode.isControl c || Mode.isBlankControl c)
    | .title | .device | .deviceParameters | .deviceSigns | .string => (mode.after c, false)
    | _ => if Mode.isBlankControl c then (.text, true) else (mode.after c, false)

def shown (start : Mode × List Char) (cs : List Char) : Mode × List Char :=
  cs.foldl (fun (mode, out) c => ((step mode c).1, if (step mode c).2 then c :: out else out)) start

/-- The text without control sequences and control characters other than blanks. -/
def strip (s : String) : String := String.ofList (shown (.text, []) s.toList).2.reverse

def bold (s : String) : String := "\x1b[1m" ++ s ++ "\x1b[0m"

theorem step_of_plain {c : Char} (h : Mode.isControl c = false) : step .text c = (.text, true) := by
  have hne : c ≠ '\x1b' ∧ c ≠ '\x18' ∧ c ≠ '\x1a' := by
    refine ⟨?_, ?_, ?_⟩ <;> rintro rfl <;> simp [Mode.isControl] at h
  simp [step, hne, h]

theorem shown_of_plain {cs out : List Char} (h : ∀ c ∈ cs, Mode.isControl c = false) :
    shown (.text, out) cs = (.text, cs.reverse ++ out) := by
  induction cs generalizing out with
  | nil => rfl
  | cons c cs ih =>
    have := @ih (c :: out) fun d hd => h d (List.mem_cons_of_mem c hd)
    simpa [shown, step_of_plain (h c List.mem_cons_self)] using this

theorem strip_of_plain {s : String} (h : ∀ c ∈ s.toList, Mode.isControl c = false) : strip s = s := by
  simp [strip, shown_of_plain h]

example : strip (bold "a" ++ "\x1b]0;t\x07b\x1b(Bc\x01") = "abc" := by decide +kernel

example : strip "\x1b[3é1mx\x1bPq\u00dcy" = "xy" := by decide +kernel

end LoginGateway.Text.Terminal
