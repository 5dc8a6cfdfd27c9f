import Fragment.Program.Library.Basic
/-!
Streams and files of the standard library.
-/
namespace Fragment.Program.Library

def outputAddress : Act Nat := do
  match (← Act.machine).standards["stdout"]? with
  | some object => return (← Act.load .address object).toNat
  | none => return 0

def writeTo (handle : Nat) (octets : Octets) : Act Int := do
  let (n, s) ← Act.stream handle
  return if ← Act.writeStream n s octets then octets.length else -1

def printTo (handle format : Nat) (values : List Value) : Act Value := do
  answer (← writeTo handle (← Format.print format values))

-- Writes a text with a zero behind it, cut to the limit if there is one.
def printInto (target : Nat) (limit : Option Nat) (format : Nat) (values : List Value) :
    Act Value := do
  let octets ← Format.print format values
  match limit with
  | none => Act.writeOctets target (octets ++ [0])
  | some 0 => pure ()
  | some (room + 1) => Act.writeOctets target (octets.take room ++ [0])
  answerNat octets.length

def putOctet (handle : Nat) (c : Int) : Act Value := do
  let o := UInt8.ofNat (c % 256).toNat
  let n ← writeTo handle [o]
  answer (if n < 0 then -1 else o.toNat)

def getOctet (handle : Nat) : Act Value := do
  let (n, _) ← Act.stream handle
  match ← Act.readStream n 1 with
  | [o] => answerNat o.toNat
  | _ => answer (-1)

def readLine (n : Nat) : Nat → Octets → Act Octets
  | 0, done => return done.reverse
  | left + 1, done => do
    match ← Act.readStream n 1 with
    | [10] => return (10 :: done).reverse
    | [o] => readLine n left (o :: done)
    | _ => return done.reverse

def openFile (path mode : Octets) : Act Value := do
  let files := (← get).files
  let plus := mode.contains 43
  let fail (fault : OsFault) : Act Value := do
    Act.setFault fault
    answer 0
  let stream (location : Location) (canRead canWrite appends : Bool) : Act Value := do
    let s := Machine.openStream (.file location) canRead canWrite
    let s := { s with appends }
    answerNat (← Act.addStream s)
  match mode.head? with
  | some 114 =>
    match files.locate path with
    | .error fault => fail fault
    | .ok location => stream location true plus false
  | some 119 =>
    match files.write path [] with
    | .error fault => fail fault
    | .ok files =>
      modify fun p => { p with files }
      match files.locate path with
      | .error fault => fail fault
      | .ok location => stream location plus true false
  | some 97 =>
    match files.locate path with
    | .ok location =>
      if files.isDirectory location then fail .isADirectory else stream location plus true true
    | .error _ =>
      match files.write path [] with
      | .error fault => fail fault
      | .ok files =>
        modify fun p => { p with files }
        match files.locate path with
        | .error fault => fail fault
        | .ok location => stream location plus true true
  | _ => fail .invalidArgument

def closeFile (handle : Nat) : Act Value := do
  let (n, s) ← Act.stream handle
  Act.flushStream n
  let s := ((← Act.machine).streams[n]?).getD s
  Act.setStream n { s with isOpen := false }
  answer 0

def seek (handle : Nat) (offset : Int) (whence : Int) : Act Value := do
  let (n, _) ← Act.stream handle
  Act.flushStream n
  let (_, s) ← Act.stream handle
  let size ← match s.sink with
    | .file location => pure (← Act.fileContent location).length
    | _ => pure 0
  let base : Int := if whence = 0 then 0 else if whence = 1 then s.position - s.pushed.length
    else size
  if base + offset < 0 then
    Act.setError 22
    answer (-1)
  else
    Act.setStream n { s with position := (base + offset).toNat, pushed := [], atEnd := false }
    answer 0

def tell (handle : Nat) : Act Value := do
  let (n, _) ← Act.stream handle
  Act.flushStream n
  let (_, s) ← Act.stream handle
  match s.sink with
  | .file _ => answer ((s.position : Int) - s.pushed.length)
  | _ =>
    Act.setError 29
    answer (-1)

def removeFile (path : Octets) : Act Value := do
  let files := (← get).files
  match files.locate path with
  | .error fault =>
    Act.setFault fault
    answer (-1)
  | .ok location =>
    modify fun p => { p with files := files.remove location }
    answer 0

def renameFile (path other : Octets) : Act Value := do
  let files := (← get).files
  let fail (fault : OsFault) : Act Value := do
    Act.setFault fault
    answer (-1)
  match files.locate path with
  | .error fault => fail fault
  | .ok location =>
    match files.entry? location, files.place other with
    | some entry, .ok (.at target) | some entry, .ok (.vacant target) =>
      modify fun p => { p with files := (files.remove location).put target entry }
      answer 0
    | _, .error fault => fail fault
    | none, _ => fail .noSuchFile

def writeDescriptor (descriptor : Int) (octets : Octets) : Act Value := do
  if descriptor = 1 then
    modify fun p => { p with
      stdout := { p.stdout with written := p.stdout.written ++ octets } }
    answerNat octets.length
  else if descriptor = 2 then
    modify fun p => { p with stderr := p.stderr ++ octets }
    answerNat octets.length
  else
    Act.setError 9
    answer (-1)

def errorText (number : Int) : String :=
  (errorTexts.lookup number.toNat).getD ("Unknown error " ++ toString number)

def sayError (note : Octets) : Act Value := do
  let n ← Act.load (.integer 4 true) (← Act.machine).errorNumber
  let start := if note.isEmpty then [] else note ++ Octets.ofString ": "
  modify fun p => { p with
    stderr := p.stderr ++ start ++ Octets.ofString (errorText n.toInt ++ "\n") }
  answer 0

-- All that a stream still has, and then a scan of it; what is not used is left to be read.
def scanFrom (handle format : Nat) (values : List Value) : Act Value := do
  let (n, _) ← Act.stream handle
  let all ← Act.readStream n (Nat.pow 2 20)
  let f ← Act.readText format
  let (count, rest) ← Format.input (f.length + 1) (Format.charsOf f) (Format.charsOf all) values 0
  let (_, s) ← Act.stream handle
  Act.setStream n { s with position := s.position - rest.length, atEnd := rest.isEmpty }
  answer count

def streams : Functions := [
  ("printf", plain fun v => do printTo (← outputAddress) (address v 0) (v.drop 1)),
  ("fprintf", plain fun v => printTo (address v 0) (address v 1) (v.drop 2)),
  ("vprintf", plain fun v => do
    printTo (← outputAddress) (address v 0) (← slotsAt (address v 1))),
  ("vfprintf", plain fun v => do printTo (address v 0) (address v 1) (← slotsAt (address v 2))),
  ("dprintf", plain fun v => do
    writeDescriptor (integer v 0) (← Format.print (address v 1) (v.drop 2))),
  ("sprintf", plain fun v => printInto (address v 0) none (address v 1) (v.drop 2)),
  ("snprintf", plain fun v => printInto (address v 0) (address v 1) (address v 2) (v.drop 3)),
  ("vsprintf", plain fun v => do
    printInto (address v 0) none (address v 1) (← slotsAt (address v 2))),
  ("vsnprintf", plain fun v => do
    printInto (address v 0) (address v 1) (address v 2) (← slotsAt (address v 3))),
  ("sscanf", plain fun v => do
    let t ← text v 0
    let f ← text v 1
    answer (← Format.input (f.length + 1) (Format.charsOf f) (Format.charsOf t) (v.drop 2) 0).1),
  ("scanf", plain fun v => do
    match (← Act.machine).standards["stdin"]? with
    | some object => scanFrom (← Act.load .address object).toNat (address v 0) (v.drop 1)
    | none => answer (-1)),
  ("fscanf", plain fun v => scanFrom (address v 0) (address v 1) (v.drop 2)),
  ("puts", plain fun v => do answer (← writeTo (← outputAddress) ((← text v 0) ++ [10]))),
  ("fputs", plain fun v => do
    let n ← writeTo (address v 1) (← text v 0)
    answer (if n < 0 then -1 else 1)),
  ("putchar", plain fun v => do putOctet (← outputAddress) (integer v 0)),
  ("putc", plain fun v => putOctet (address v 1) (integer v 0)),
  ("fputc", plain fun v => putOctet (address v 1) (integer v 0)),
  ("getchar", plain fun _ => do
    match (← Act.machine).standards["stdin"]? with
    | some object => getOctet (← Act.load .address object).toNat
    | none => answer (-1)),
  ("getc", plain fun v => getOctet (address v 0)),
  ("fgetc", plain fun v => getOctet (address v 0)),
  ("ungetc", plain fun v => do
    if integer v 0 = -1 then answer (-1)
    else
      let (n, s) ← Act.stream (address v 1)
      let o := UInt8.ofNat (integer v 0 % 256).toNat
      Act.setStream n { s with pushed := o :: s.pushed, atEnd := false }
      answerNat o.toNat),
  ("fgets", plain fun v => do
    let (n, _) ← Act.stream (address v 2)
    let line ← readLine n ((integer v 1).toNat - 1) []
    if line.isEmpty then answer 0
    else
      Act.writeOctets (address v 0) (line ++ [0])
      answerNat (address v 0)),
  ("fopen", plain fun v => do openFile (← text v 0) (← text v 1)),
  ("fclose", plain fun v => closeFile (address v 0)),
  ("fflush", plain fun v => do
    if address v 0 = 0 then Act.flushAll
    else
      let (n, _) ← Act.stream (address v 0)
      Act.flushStream n
    answer 0),
  ("fread", plain fun v => do
    let (n, _) ← Act.stream (address v 3)
    let size := address v 1
    let octets ← Act.readStream n (size * address v 2)
    Act.writeOctets (address v 0) octets
    answerNat (if size = 0 then 0 else octets.length / size)),
  ("fwrite", plain fun v => do
    let octets ← Act.readOctets (address v 0) (address v 1 * address v 2)
    let n ← writeTo (address v 3) octets
    answerNat (if n < 0 || address v 1 = 0 then 0 else address v 2)),
  ("fseek", plain fun v => seek (address v 0) (integer v 1) (integer v 2)),
  ("ftell", plain fun v => tell (address v 0)),
  ("rewind", plain fun v => seek (address v 0) 0 0),
  ("feof", plain fun v => do answerTruth (← Act.stream (address v 0)).2.atEnd),
  ("ferror", plain fun v => do answerTruth (← Act.stream (address v 0)).2.failed),
  ("clearerr", plain fun v => do
    let (n, s) ← Act.stream (address v 0)
    Act.setStream n { s with atEnd := false, failed := false }
    answer 0),
  ("fileno", plain fun v => do
    let (n, _) ← Act.stream (address v 0)
    answerNat n),
  ("setvbuf", plain fun v => do
    let (n, s) ← Act.stream (address v 0)
    Act.setStream n { s with direct := integer v 2 != 0 }
    answer 0),
  ("setbuf", plain fun v => do
    let (n, s) ← Act.stream (address v 0)
    Act.setStream n { s with direct := address v 1 = 0 }
    answer 0),
  ("remove", plain fun v => do removeFile (← text v 0)),
  ("unlink", plain fun v => do removeFile (← text v 0)),
  ("rename", plain fun v => do renameFile (← text v 0) (← text v 1)),
  ("access", plain fun v => do
    match (← get).files.locate (← text v 0) with
    | .ok _ => answer 0
    | .error fault =>
      Act.setFault fault
      answer (-1)),
  ("perror", plain fun v => do
    let note ← if address v 0 = 0 then pure [] else text v 0
    sayError note),
  ("write", plain fun v => do
    writeDescriptor (integer v 0) (← Act.readOctets (address v 1) (address v 2))),
  ("read", plain fun v => do
    if integer v 0 = 0 then answer 0
    else
      Act.setError 9
      answer (-1)),
  ("isatty", plain fun _ => answer 0)]

end Fragment.Program.Library
