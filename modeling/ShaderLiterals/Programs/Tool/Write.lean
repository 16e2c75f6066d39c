import ShaderLiterals.Programs.Decimal
import ShaderLiterals.Programs.Status
import ShaderLiterals.Programs.Tool.Names

/-! # Writing files -/

namespace ShaderLiterals.Programs

open Files (Fault)

/-- Writes its input to its output and to files. -/
def tee : Tool := fun call =>
  call.withOptions "a/append i/ignore-interrupts p/ /output-error==" 1 fun options => do
  let mode := if options.has "append" then World.Mode.append else .write
  let mut status := 0
  let mut handles : List (Raw × Nat) := []
  for path in options.operands do
    match ← World.openPath call.streams mode path with
    | .ok handle => handles := handles ++ [(path, handle)]
    | .error fault => do
        call.complainPath path fault
        status := 1
  match ← call.takeAll 0 with
  | .error fault => do
      call.complain (Raw.ofText ("read error: " ++ fault.text))
      return 1
  | .ok text => do
      call.print text
      for (path, handle) in handles do
        if let .error fault ← World.write handle text then
          call.complainPath path fault
          status := 1
      return status

/-- Prints a line again and again, as long as somebody reads. -/
def yes : Tool := fun call => do
  let args := if call.args.head? = some ['-', '-'] then call.args.drop 1 else call.args
  let line := (if args.isEmpty then ['y'] else [' '].intercalate args) ++ ['\n']
  let block := (List.replicate (1 + 1023 / line.length) line).flatten
  go block 200000 call
where
  go (block : Raw) : (fuel : Nat) → Call → Job Nat
    | 0, _ => return 0
    | fuel + 1, call => do
        call.print block
        if (← get).writeFault.isSome then return 1
        go block fuel call

/-! ## Sizes -/

namespace Resize

/-- How a size is found from the present one. -/
inductive Way where
  | exact
  | grow
  | shrink
  | atMost
  | atLeast
  | down
  | up

/-- The way that the first character of a size asks for. -/
def way : Raw → Way × Raw
  | '+' :: rest => (.grow, rest)
  | '-' :: rest => (.shrink, rest)
  | '<' :: rest => (.atMost, rest)
  | '>' :: rest => (.atLeast, rest)
  | '/' :: rest => (.down, rest)
  | '%' :: rest => (.up, rest)
  | rest => (.exact, rest)

def apply (way : Way) (n old : Nat) : Nat :=
  match way with
  | .exact => n
  | .grow => old + n
  | .shrink => old - n
  | .atMost => min old n
  | .atLeast => max old n
  | .down => old / n * n
  | .up => (old + n - 1) / n * n

end Resize

/-- Makes files longer or shorter. -/
def truncate : Tool := fun call =>
  call.withOptions "c/no-create o/io-blocks r/reference= s/size=" 1 fun options => do
  match options.value? "size", options.value? "reference" with
  | none, none =>
      call.refuseUsage 1 (Raw.ofText "you must specify either '--size' or '--reference'")
  | text?, reference? => do
      if options.operands.isEmpty then
        return ← call.refuseUsage 1 (Raw.ofText "missing file operand")
      let base ←
        match reference? with
        | none => pure (some none)
        | some path =>
            match ← call.status path with
            | .ok status => pure (some (some status.size))
            | .error fault => do
                call.complainCannot "stat" path fault
                pure none
      let (way, digits) := Resize.way (text?.getD ['+', '0'])
      match base, Raw.size? digits with
      | none, _ => return 1
      | _, none => call.refuse 1 (Raw.ofText "Invalid number: " ++ Quote.always (text?.getD []))
      | some base, some n => do
          let mut status := 0
          for path in options.operands do
            if options.has "no-create" && !(← call.status path).isOk then continue
            match ← World.openPath call.streams .append path with
            | .error fault => do
                call.complain (Raw.ofText "cannot open " ++ Quote.always path ++
                  Raw.ofText (" for writing: " ++ fault.text))
                status := 1
            | .ok handle =>
                match (← get).channel? handle with
                | some ⟨.file id _ _, _, _⟩ =>
                    World.modifyMachine fun machine =>
                      let old := machine.store.bytes id
                      let size := Resize.apply way n (base.getD old.length)
                      (machine.setBytes id
                        (old.take size ++ List.replicate (size - old.length) 0)).tick
                | _ => pure ()
          return status

/-! ## Temporary files -/

namespace Temporary

def letters : Raw := "abcdefghijklmnopqrstuvwxyzABCDEFGHIJKLMNOPQRSTUVWXYZ0123456789".toList

/-- Letters and digits that a number decides. -/
def name : (count : Nat) → Nat → Raw
  | 0, _ => []
  | count + 1, seed =>
      let next := (seed * 6364136223846793005 + 1442695040888963407) % 18446744073709551616
      letters.getD (next / 8589934592 % letters.length) 'x' :: name count next

/-- A template with the last run of capital letters X filled, if it is long enough. -/
def fill? (template suffix : Raw) (seed : Nat) : Option Raw :=
  let bare := Raw.dropEnd (· == 'X') template
  let count := template.length - bare.length
  if count < 3 then none else some (bare ++ name count seed ++ suffix)

end Temporary

/-- Makes a file or a directory with a name of its own. -/
def mktemp : Tool := fun call =>
  call.withOptions "d/directory u/dry-run q/quiet p/tmpdir== t/ /suffix=" 1 fun options => do
  match options.operands with
  | _ :: _ :: _ => call.refuseUsage 1 (Raw.ofText "too many templates")
  | operands => do
      let given := operands.head?
      let shared := (call.lookup "TMPDIR").filter (!·.isEmpty) |>.getD "/tmp".toList
      let directory :=
        match options.value? "tmpdir" with
        | some [] => some shared
        | some directory => some directory
        | none => if options.has "t" || given.isNone then some shared else none
      let template := given.getD "tmp.XXXXXXXXXX".toList
      if options.has "t" && template.contains '/' then
        return ← call.refuse 1 (Raw.ofText "invalid template, " ++ Quote.always template ++
          Raw.ofText ", contains directory separator")
      let after := (template.reverse.takeWhile (· != 'X')).reverse
      let (front, suffix) :=
        match options.value? "suffix" with
        | some suffix => (template, suffix)
        | none => (template.take (template.length - after.length), after)
      let place := fun (name : Raw) =>
        match directory with
        | some directory => Names.inside directory name
        | none => name
      let world ← get
      match Temporary.fill? front suffix (world.machine.clock / 1000 + world.nextProcess) with
      | none =>
          call.refuse 1 (Raw.ofText "too few X's in template " ++ Quote.always template)
      | some name => do
          let path := place name
          if options.has "dry-run" then
            call.printLine path
            return 0
          let isDirectory := options.has "directory"
          match world.machine.vacant (Raw.toText path) with
          | .error fault => do
              unless options.has "quiet" do
                call.complain (Raw.ofText (if isDirectory then "failed to create directory"
                  else "failed to create file") ++ Raw.ofText " via template " ++
                  Quote.always (place template) ++ Raw.ofText (": " ++ fault.text))
              return 1
          | .ok location => do
              World.modifyMachine fun machine =>
                if isDirectory then
                  ((machine.put location .directory).setDirectoryMode location 0o700).tick
                else (machine.putFile location [] 0o600).tick
              call.printLine path
              return 0

/-! ## Blocks -/

namespace Blocks

/-- What an operand with an equals sign says. -/
def value? (args : List Raw) (key : String) : Option Raw :=
  args.reverse.findSome? fun arg => (key ++ "=").toList.isPrefixOf? arg

/-- A number of bytes with a unit of powers of a thousand. -/
def shortSize (base : Nat) (units : List String) (n : Nat) : Raw :=
  match (units.zipIdx.reverse.find? fun (_, i) => Nat.pow base (i + 1) ≤ n) with
  | none => Raw.ofText s!"{n} B"
  | some (unit, i) =>
      let unitSize := Nat.pow base (i + 1)
      let tenths := Decimal.roundDiv (n * 10) unitSize
      (if tenths < 100 then Raw.ofNat (tenths / 10) ++ '.' :: Raw.ofNat (tenths % 10)
      else Raw.ofNat (Decimal.roundDiv n unitSize)) ++ Raw.ofText (" " ++ unit)

/-- What is said of how much was copied. -/
def summary (blockIn blockOut total : Nat) : Raw :=
  let records := fun (block : Nat) (word : String) =>
    let partly := if total % block = 0 then 0 else 1
    Raw.ofText s!"{total / block}+{partly} records {word}\n"
  let unit := if total = 1 then "byte" else "bytes"
  let sizes :=
    if total < 1000 then []
    else
      Raw.ofText " (" ++ shortSize 1000 ["kB", "MB", "GB"] total ++
        (if total < 1024 then []
         else Raw.ofText ", " ++ shortSize 1024 ["KiB", "MiB", "GiB"] total) ++
        [')']
  records blockIn "in" ++ records blockOut "out" ++
    Raw.ofText s!"{total} {unit}" ++ sizes ++
    Raw.ofText " copied, 0.0001 s, " ++ shortSize 1000 ["kB", "MB", "GB"] (total * 10000) ++
    Raw.ofText "/s\n"

/-- A size that may be a product. -/
def size? (text : Raw) : Option Nat :=
  (text.splitOn 'x').foldlM (fun n part => (Raw.size? part).map (n * ·)) 1

end Blocks

/-- Copies blocks of bytes. -/
def dd : Tool := fun call => do
  let known := ["if", "of", "bs", "ibs", "obs", "cbs", "count", "skip", "seek", "conv", "status",
    "iflag", "oflag", "iseek", "oseek"]
  match call.args.find? fun arg => !known.any fun key => (key ++ "=").toList.isPrefixOf arg with
  | some arg => call.refuseUsage 1 (Raw.ofText "unrecognized operand " ++ Quote.always arg)
  | none => do
      let value := Blocks.value? call.args
      let numbers := ["bs", "ibs", "obs", "count", "skip", "seek", "iseek", "oseek"].filterMap value
      if let some bad := numbers.find? fun text => (Blocks.size? text).isNone then
        return ← call.refuse 1 (Raw.ofText "invalid number: " ++ Quote.always bad)
      let size := fun (key : String) (usual : Nat) => ((value key).bind Blocks.size?).getD usual
      let blockIn := size "bs" (size "ibs" 512)
      let blockOut := size "bs" (size "obs" 512)
      let flags := fun (key : String) => ((value key).getD []).splitOn ','
      let has := fun (key flag : String) => (flags key).contains flag.toList
      let openFault := fun (path : Raw) (fault : Fault) =>
        call.refuse 1 (Raw.ofText "failed to open " ++ Quote.always path ++
          Raw.ofText (": " ++ fault.text))
      let source := (value "if").getD []
      match ← if source.isEmpty then call.openOperand ['-'] else call.openRead source with
      | .error fault => openFault source fault
      | .ok handle => do
          let target := value "of"
          let seekUnit := if has "oflag" "seek_bytes" then 1 else blockOut
          let seek := size "seek" (size "oseek" 0) * seekUnit
          let outcome ←
            match target with
            | none => pure ((call.handle? 1).elim (.error .badDescriptor) .ok)
            | some path =>
                let mode : World.Mode :=
                  if has "oflag" "append" then .append
                  else if has "conv" "notrunc" || seek != 0 then .readWrite
                  else .write
                World.openPath call.streams mode path
          match outcome with
          | .error fault => openFault (target.getD []) fault
          | .ok out => do
              let skipUnit := if has "iflag" "skip_bytes" then 1 else blockIn
              let skip := size "skip" (size "iseek" 0) * skipUnit
              World.skip handle skip
              let count := (value "count").bind Blocks.size?
              let limit := count.map (· * if has "iflag" "count_bytes" then 1 else blockIn)
              let read ←
                match limit with
                | some n => World.takeSome handle n
                | none => World.takeAll handle
              match read with
              | .error fault =>
                  call.refuse 1 (Raw.ofText "error reading " ++ Quote.always source ++
                    Raw.ofText (": " ++ fault.text))
              | .ok text => do
                  let text :=
                    if has "conv" "ucase" then text.map Char.toUpper
                    else if has "conv" "lcase" then text.map Char.toLower
                    else text
                  if target.isSome && seek != 0 then
                    if let some ⟨.file id _ appends, _, _⟩ := (← get).channel? out then
                      World.replace out (.file id seek appends)
                      unless has "conv" "notrunc" do
                        World.modifyMachine fun machine =>
                          machine.setBytes id ((machine.store.bytes id).take seek)
                  if target.isSome then discard <| World.write out text else call.print text
                  unless value "status" = some "none".toList do
                    let summary := Blocks.summary blockIn blockOut text.length
                    if value "status" = some "noxfer".toList then
                      call.warn (Raw.unlines ((Raw.lines summary).take 2))
                    else call.warn summary
                  return 0

/-! ## Pieces -/

namespace Pieces

/-- The ending of the name of a piece with a number. -/
def ending (letters : Raw) : (width : Nat) → Nat → Raw
  | 0, _ => []
  | width + 1, n =>
      ending letters width (n / letters.length) ++ [letters.getD (n % letters.length) 'a']

/-- Records in groups; at most `fuel` of them. -/
def groups (count : Nat) : (fuel : Nat) → List Raw → List Raw
  | 0, _ | _, [] => []
  | fuel + 1, records => (records.take count).flatten :: groups count fuel (records.drop count)

end Pieces

/-- Writes the pieces of an operand to files. -/
def split : Tool := fun call =>
  call.withOptions ("l/lines= b/bytes= C/line-bytes= n/number= a/suffix-length= " ++
    "d/numeric-suffixes== x/hex-suffixes== e/elide-empty-files /additional-suffix= /verbose " ++
    "t/separator= u/unbuffered /filter=") 1 fun options => do
  let source := options.operands.headD ['-']
  let start := options.operands.getD 1 ['x']
  match ← call.readOperand source with
  | .error fault => do
      call.complain (Raw.ofText "cannot open " ++ Quote.always source ++
        Raw.ofText (" for reading: " ++ fault.text))
      return 1
  | .ok text => do
      let number := fun (key : String) => (options.value? key).bind Raw.size?
      let pieces :=
        match number "bytes", number "number" with
        | some n, _ => Raw.chunks (max 1 n) text.length text
        | none, some n =>
            let size := text.length / max 1 n
            (List.range n).map fun i =>
              (text.drop (i * size)).take (if i + 1 = n then text.length else size)
        | none, none =>
            Pieces.groups (max 1 ((number "lines").getD 1000)) text.length (Raw.wholeLines text)
      let letters : Raw :=
        if options.has "numeric-suffixes" then "0123456789".toList
        else if options.has "hex-suffixes" then "0123456789abcdef".toList
        else "abcdefghijklmnopqrstuvwxyz".toList
      let width := ((options.value? "suffix-length").bind Raw.nat?).getD 2
      let mut status := 0
      for (piece, i) in pieces.zipIdx do
        let path := start ++ Pieces.ending letters width i ++
          (options.value? "additional-suffix").getD []
        if let .error fault ← call.writeFile .write path piece then
          call.complainPath path fault
          status := 1
      return status

/-- Prints its lines in another order. -/
def shuf : Tool := fun call =>
  call.withOptions ("e/echo i/input-range= n/head-count= o/output= r/repeat z/zero-terminated " ++
    "/random-source=") 1 fun options => do
  let ending := if options.has "zero-terminated" then '\x00' else '\n'
  let lines : Except Fault (List Raw) ←
    match options.value? "input-range" with
    | some range =>
        match (range.splitOn '-').map Raw.nat? with
        | [some low, some high] => pure (.ok ((List.range' low (high + 1 - low)).map Raw.ofNat))
        | _ => pure (.ok [])
    | none =>
        if options.has "echo" then pure (.ok options.operands)
        else do
          match ← call.readOperand (options.operands.headD ['-']) with
          | .ok text => pure (.ok (Raw.records ending text))
          | .error fault => pure (.error fault)
  match lines with
  | .error fault => do
      call.complainPath (options.operands.headD ['-']) fault
      return 1
  | .ok lines => do
      let seed := (← get).machine.clock / 1000
      let keyed := lines.zipIdx.map fun (line, i) => (Temporary.name 8 (seed + i), line)
      let mixed := (keyed.mergeSort fun a b => Raw.precedes a.1 b.1).map Prod.snd
      let count := (options.value? "head-count").bind Raw.nat?
      let text := Raw.joinRecords ending ((count.map mixed.take).getD mixed)
      match options.value? "output" with
      | none => call.print text; return 0
      | some path =>
          match ← call.writeFile .write path text with
          | .ok () => return 0
          | .error fault => do
              call.complainPath path fault
              return 1

end ShaderLiterals.Programs
