import Mathlib.Data.List.TakeWhile
import ShaderLiterals.Proofs.CommandLine.Grammar

/-!
# Reading lines of the grammar

The reader accepts the lines that are put together from groups, and the settings are what these mean
(`read_eq_ok_iff`).  It checks values later than it reads them, which makes no difference to what it
accepts (`finish_eq_ok_iff_settle`), so that it can be followed group by group
(`finish_group_append`).
-/

namespace ShaderLiterals.CommandLine

/-! ## Kinds of arguments -/

/-- What an argument is, by its hyphens. -/
theorem isPlain_or (argument : String) :
    IsPlain argument ∨ argument = "--" ∨
      (∃ text, text ≠ [] ∧ argument.toList = '-' :: '-' :: text) ∨
      ∃ letter rest, letter ≠ '-' ∧ argument.toList = '-' :: letter :: rest := by
  rcases hlist : argument.toList with _ | ⟨c, _ | ⟨letter, rest⟩⟩
  · exact .inl (.inr (by simp [hlist]))
  · by_cases hc : c = '-'
    · exact .inl (.inl (String.toList_inj.1 (by rw [hlist, hc]; rfl)))
    · exact .inl (.inr (by simpa [hlist] using hc))
  · by_cases hc : c = '-'
    · obtain rfl := hc
      by_cases hletter : letter = '-'
      · obtain rfl := hletter
        rcases rest with _ | ⟨d, rest⟩
        · exact .inr (.inl (String.toList_inj.1 hlist))
        · exact .inr (.inr (.inl ⟨d :: rest, List.cons_ne_nil _ _, rfl⟩))
      · exact .inr (.inr (.inr ⟨letter, rest, hletter, rfl⟩))
    · exact .inl (.inr (by simpa [hlist] using hc))

namespace Reader

section Next

variable {reader : Reader} {argument : String}

theorem next_of_onlyPaths (h : reader.onlyPaths = true) :
    reader.next argument = reader.addPath argument := by
  rw [next, if_pos h]

variable (honly : reader.onlyPaths = false)
  (hwaiting : reader.waiting ≠ .option .validatorArg none)

include honly hwaiting

theorem next_of_isPlain (h : IsPlain argument) :
    reader.next argument = reader.addPlain argument := by
  rw [next, if_neg (Bool.eq_false_iff.1 honly), if_neg hwaiting]
  rcases h with rfl | h
  · rfl
  · split
    · next hlist => exact absurd (congrArg List.head? hlist) h
    · next hlist => exact absurd (congrArg List.head? hlist) h
    · next hlist => exact absurd (congrArg List.head? hlist) h
    · rfl

theorem next_hyphens : reader.next "--" = .ok { reader with onlyPaths := true } := by
  rw [next, if_neg (Bool.eq_false_iff.1 honly), if_neg hwaiting]
  rfl

theorem next_of_long {text : List Char} (hne : text ≠ [])
    (h : argument.toList = '-' :: '-' :: text) : reader.next argument = reader.addLong text := by
  rw [next, if_neg (Bool.eq_false_iff.1 honly), if_neg hwaiting, h]
  cases text with
  | nil => exact absurd rfl hne
  | cons c text => rfl

theorem next_of_short {letter : Char} {rest : List Char} (hne : letter ≠ '-')
    (h : argument.toList = '-' :: letter :: rest) :
    reader.next argument = reader.addShort letter := by
  rw [next, if_neg (Bool.eq_false_iff.1 honly), if_neg hwaiting, h]
  split
  · next hlist => exact absurd (List.cons.inj (List.cons.inj hlist).2).1 hne
  · next hlist => exact absurd (List.cons.inj (List.cons.inj hlist).2).1 hne
  · next hlist =>
    obtain ⟨rfl, -⟩ := List.cons.inj (List.cons.inj hlist).2
    rfl
  · next h => exact absurd rfl (h letter rest)

end Next

end Reader

/-! ## Options and their values -/

theorem ValueOption.name_of_ofName? {name : String} {option : ValueOption}
    (h : ofName? name = some option) : option.name = name := by
  simpa using List.find?_some h

theorem Flag.name_of_ofName? {name : String} {flag : Flag} (h : ofName? name = some flag) :
    flag.name = name := by
  simpa using List.find?_some h

theorem ValueOption.equals_not_mem_name (option : ValueOption) : '=' ∉ option.name.toList := by
  cases option <;> decide

theorem ValueOption.toList_name_ne_nil (option : ValueOption) : option.name.toList ≠ [] := by
  cases option <;> decide

namespace Reader

theorem splitValue_of_not_mem {text : List Char} (h : '=' ∉ text) :
    splitValue text = (String.ofList text, none) := by
  have htake : text.takeWhile (· != '=') = text :=
    List.takeWhile_eq_self_iff.2 fun c hc => bne_iff_ne.2 (ne_of_mem_of_not_mem hc h)
  rw [splitValue, htake, if_neg (Nat.lt_irrefl _)]

theorem splitValue_append_cons {name : List Char} (h : '=' ∉ name) (value : List Char) :
    splitValue (name ++ '=' :: value) = (String.ofList name, some (String.ofList value)) := by
  have hname : ∀ c ∈ name, (c != '=') = true := fun c hc =>
    bne_iff_ne.2 (ne_of_mem_of_not_mem hc h)
  have htake : (name ++ '=' :: value).takeWhile (· != '=') = name := by
    rw [List.takeWhile_append_of_pos hname, List.takeWhile_cons_of_neg (by simp), List.append_nil]
  have hdrop : (name ++ '=' :: value).drop (name.length + 1) = value := by
    rw [← List.drop_drop, List.drop_left]
    rfl
  rw [splitValue, htake, hdrop, if_pos (by simp)]

/-- What two hyphens are followed by is a name, or a name with a value. -/
theorem splitValue_cases (text : List Char) :
    (∃ name, splitValue text = (name, none) ∧ text = name.toList) ∨
      ∃ name value, splitValue text = (name, some value) ∧
        text = name.toList ++ '=' :: value.toList := by
  by_cases h : '=' ∈ text
  · obtain ⟨name, value, rfl, hname⟩ := List.eq_append_cons_of_mem h
    refine .inr ⟨_, _, splitValue_append_cons hname value, ?_⟩
    rw [String.toList_ofList, String.toList_ofList]
  · exact .inl ⟨_, splitValue_of_not_mem h, (String.toList_ofList).symm⟩

/-- What follows two hyphens is refused for itself, or it is an option or a flag. -/
theorem addLong_cases (text : List Char) :
    (∃ stop, ∀ reader : Reader, reader.addLong text = .error stop) ∨
      (∃ option : ValueOption, text = option.name.toList ∧
        ∀ reader : Reader, reader.addLong text = reader.addOption option none) ∨
      (∃ (option : ValueOption) (value : String), text = option.name.toList ++ '=' :: value.toList ∧
        ∀ reader : Reader, reader.addLong text = reader.addOption option (some value)) ∨
      ∃ flag : Flag, text = flag.name.toList ∧
        ∀ reader : Reader, reader.addLong text = reader.addFlag flag none := by
  unfold addLong
  rcases splitValue_cases text with ⟨name, hsplit, rfl⟩ | ⟨name, value, hsplit, rfl⟩ <;>
    rw [hsplit] <;> dsimp only <;> cases hoption : ValueOption.ofName? name
  · cases hflag : Flag.ofName? name with
    | none => exact .inl ⟨_, fun _ => rfl⟩
    | some flag =>
        exact .inr (.inr (.inr ⟨flag, by rw [Flag.name_of_ofName? hflag], fun _ => rfl⟩))
  · exact .inr (.inl ⟨_, by rw [ValueOption.name_of_ofName? hoption], fun _ => rfl⟩)
  · cases Flag.ofName? name <;> exact .inl ⟨_, fun _ => rfl⟩
  · exact .inr (.inr (.inl ⟨_, value, by rw [ValueOption.name_of_ofName? hoption], fun _ => rfl⟩))

end Reader

/-! ## Checking late -/

namespace Reader

variable {reader : Reader} {given given' : Given} {fault : UsageFault} {argument : String}

/-- The reader for whom nothing waits. -/
def fresh (given : Given) (onlyPaths : Bool) : Reader := ⟨given, .nothing, onlyPaths⟩

/-- Whether no option waits for its value. -/
def IsReady (reader : Reader) : Prop := ∀ option, reader.waiting ≠ .option option none

theorem isReady_fresh (given : Given) (onlyPaths : Bool) : (fresh given onlyPaths).IsReady :=
  fun _ => Waiting.noConfusion

theorem settle_fresh (given : Given) (onlyPaths : Bool) :
    (fresh given onlyPaths).settle = .ok given := rfl

theorem settled_of_ok (h : reader.settle = .ok given) (next : Given → Except UsageFault Reader) :
    reader.settled next = (next given).mapError .fault := by
  rw [settled, h]

theorem settled_of_error (h : reader.settle = .error fault)
    (next : Given → Except UsageFault Reader) : reader.settled next = .error (.fault fault) := by
  rw [settled, h]

/-- A known option finds what waited checked. -/
theorem addLong_of_ok (honly : reader.onlyPaths = false) (h : reader.settle = .ok given)
    (text : List Char) : reader.addLong text = (fresh given false).addLong text := by
  obtain ⟨before, waiting, onlyPaths⟩ := reader
  obtain rfl : onlyPaths = false := honly
  have hsettled (next : Given → Except UsageFault Reader) :
      settled ⟨before, waiting, false⟩ next = (fresh given false).settled next :=
    (settled_of_ok h next).trans (settled_of_ok (settle_fresh given false) next).symm
  rcases addLong_cases text with
    ⟨stop, hlong⟩ | ⟨option, -, hlong⟩ | ⟨option, value, -, hlong⟩ | ⟨flag, -, hlong⟩ <;>
    rw [hlong, hlong]
  · exact hsettled _
  · exact hsettled _
  · cases flag with
    | list => exact hsettled _
    | help => simp only [addFlag, h, settle_fresh]

theorem exists_stop_addLong (h : reader.settle = .error fault) (text : List Char) :
    ∃ stop, reader.addLong text = .error stop := by
  rcases addLong_cases text with
    ⟨stop, hlong⟩ | ⟨option, -, hlong⟩ | ⟨option, value, -, hlong⟩ | ⟨flag, -, hlong⟩ <;>
    rw [hlong]
  · exact ⟨stop, rfl⟩
  · exact ⟨_, settled_of_error h _⟩
  · exact ⟨_, settled_of_error h _⟩
  · cases flag with
    | list => exact ⟨_, settled_of_error h _⟩
    | help => exact ⟨.fault fault, by simp only [addFlag, h]⟩

/-- No flag but the one for a listing lets the reader go on. -/
theorem exists_stop_addHelp (reader : Reader) : ∃ stop, reader.addFlag .help none = .error stop := by
  rw [addFlag]
  cases reader.settle <;> exact ⟨_, rfl⟩

/-- No argument with one hyphen lets the reader go on. -/
theorem exists_stop_addShort (reader : Reader) (letter : Char) :
    ∃ stop, reader.addShort letter = .error stop := by
  unfold addShort
  split
  · exact exists_stop_addHelp reader
  · exact ⟨_, rfl⟩

theorem addPlain_of_isReady (h : reader.IsReady) :
    reader.addPlain argument = reader.addPath argument := by
  unfold addPlain
  split
  · next option hwaiting => exact absurd hwaiting (h option)
  · rfl

/-- Once all arguments are paths, or if the argument is plain, it is read as a path. -/
theorem next_eq_addPath (hready : reader.IsReady) (h : reader.onlyPaths = true ∨ IsPlain argument) :
    reader.next argument = reader.addPath argument := by
  by_cases honly : reader.onlyPaths = true
  · exact next_of_onlyPaths honly
  · rw [next_of_isPlain (Bool.eq_false_iff.2 honly) (hready _) (h.resolve_left honly),
      addPlain_of_isReady hready]

/-- A path waits with the paths before it, or what waited is checked before it waits. -/
theorem addPath_cases (reader : Reader) (path : String) :
    (∃ next, reader.addPath path = .ok next ∧ next.IsReady ∧ next.onlyPaths = reader.onlyPaths ∧
        ∀ given', next.settle = .ok given' ↔
          ∃ given, reader.settle = .ok given ∧ given.addPaths [path] = .ok given') ∨
      (∃ stop, reader.addPath path = .error stop) ∧ ∀ given, reader.settle ≠ .ok given := by
  unfold addPath
  split
  · next paths hwaiting =>
    refine .inl ⟨_, rfl, fun _ => Waiting.noConfusion, rfl, fun given' => ?_⟩
    rw [settle, settle, hwaiting]
    exact Given.addPaths_append_eq_ok_iff
  · cases hsettle : reader.settle with
    | error fault => exact .inr ⟨⟨_, settled_of_error hsettle _⟩, fun _ => nofun⟩
    | ok given =>
        refine .inl ⟨_, settled_of_ok hsettle _, fun _ => Waiting.noConfusion, rfl,
          fun given' => ?_⟩
        simp only [Except.ok.injEq, exists_eq_left']
        rfl

section Finish

variable {environment : Option String} {arguments : List String} {settings : Settings}

theorem finish_nil_eq_ok_iff : reader.finish environment [] = .ok settings ↔
    ∃ given, reader.settle = .ok given ∧ given.settings environment = .ok settings := by
  rw [finish]
  cases reader.settle with
  | error fault => simp
  | ok given => cases hsettings : given.settings environment <;> simp [Except.mapError, hsettings]

theorem finish_cons_of_ok {next : Reader} (h : reader.next argument = .ok next) :
    reader.finish environment (argument :: arguments) = next.finish environment arguments := by
  rw [finish, h]

theorem finish_cons_ne_ok {stop : Stop} (h : reader.next argument = .error stop) :
    reader.finish environment (argument :: arguments) ≠ .ok settings := by
  rw [finish, h]
  nofun

theorem finish_cons_congr {other : Reader} (h : reader.next argument = other.next argument) :
    reader.finish environment (argument :: arguments) =
      other.finish environment (argument :: arguments) := by
  rw [finish, finish, h]

/-- It makes no difference to what is accepted whether a reader for whom a value or paths wait
checks them now or later. -/
theorem finish_eq_ok_iff_settle (hready : reader.IsReady) :
    reader.finish environment arguments = .ok settings ↔
      ∃ given, reader.settle = .ok given ∧
        (fresh given reader.onlyPaths).finish environment arguments = .ok settings := by
  induction arguments generalizing reader with
  | nil => simp only [finish_nil_eq_ok_iff, settle_fresh, Except.ok.injEq, exists_eq_left']
  | cons argument arguments ih =>
      have hpath {reader : Reader}
          (h : reader.next argument = reader.addPath argument) :
          reader.finish environment (argument :: arguments) = .ok settings ↔
            ∃ given, reader.settle = .ok given ∧ ∃ given', given.addPaths [argument] = .ok given' ∧
              (fresh given' reader.onlyPaths).finish environment arguments = .ok settings := by
        rcases addPath_cases reader argument with
          ⟨next, hnext, hnextReady, honly, hsettle⟩ | ⟨⟨stop, hstop⟩, hsettle⟩
        · rw [finish_cons_of_ok (h.trans hnext), ih hnextReady, honly]
          simp only [hsettle]
          constructor
          · rintro ⟨given', ⟨given, hgiven, hadd⟩, hrest⟩
            exact ⟨given, hgiven, given', hadd, hrest⟩
          · rintro ⟨given, hgiven, given', hadd, hrest⟩
            exact ⟨given', ⟨given, hgiven, hadd⟩, hrest⟩
        · simp only [finish_cons_ne_ok (h.trans hstop), hsettle, false_and, exists_false]
      by_cases hpaths : reader.onlyPaths = true ∨ IsPlain argument
      · have hfresh (given : Given) :=
          hpath (next_eq_addPath (isReady_fresh given reader.onlyPaths) hpaths)
        simp only [hpath (next_eq_addPath hready hpaths), hfresh, settle_fresh, Except.ok.injEq,
          exists_eq_left']
        rfl
      · obtain ⟨honly, hplain⟩ := not_or.1 hpaths
        have honly : reader.onlyPaths = false := Bool.eq_false_iff.2 honly
        rw [honly]
        have hwaiting := hready .validatorArg
        have hfresh (given : Given) : (fresh given false).waiting ≠ .option .validatorArg none :=
          isReady_fresh given false .validatorArg
        rcases (isPlain_or argument).resolve_left hplain with
          rfl | ⟨text, hne, htext⟩ | ⟨letter, rest, hne, htext⟩
        · have hnext (given : Given) : (fresh given false).next "--" = .ok (fresh given true) :=
            next_hyphens rfl (hfresh given)
          have hready' : IsReady { reader with onlyPaths := true } := hready
          rw [finish_cons_of_ok (next_hyphens honly hwaiting), ih hready']
          simp only [finish_cons_of_ok (hnext _)]
          rfl
        · cases hsettle : reader.settle with
          | error fault =>
              obtain ⟨stop, hstop⟩ := exists_stop_addLong hsettle text
              have hnext := (next_of_long honly hwaiting hne htext).trans hstop
              simp [finish_cons_ne_ok hnext]
          | ok given =>
              have hnext : reader.next argument = (fresh given false).next argument := by
                rw [next_of_long honly hwaiting hne htext,
                  next_of_long rfl (hfresh given) hne htext, addLong_of_ok honly hsettle]
              simp only [Except.ok.injEq, exists_eq_left']
              rw [finish_cons_congr hnext]
        · have hstop {reader : Reader} (honly : reader.onlyPaths = false)
              (hwaiting : reader.waiting ≠ .option .validatorArg none) :
              reader.finish environment (argument :: arguments) ≠ .ok settings := by
            obtain ⟨stop, hstop⟩ := exists_stop_addShort reader letter
            exact finish_cons_ne_ok ((next_of_short honly hwaiting hne htext).trans hstop)
          simp only [hstop honly hwaiting, hstop rfl (hfresh _), and_false, exists_false]

end Finish

end Reader

/-! ## Reading groups -/

namespace Reader

variable {given : Given} {environment : Option String} {more : List String} {settings : Settings}

/-- After an option the reader waits for its value. -/
theorem next_option (given : Given) (option : ValueOption) :
    (fresh given false).next ("--" ++ option.name) = .ok ⟨given, .option option none, false⟩ := by
  rw [next_of_long rfl (isReady_fresh _ _ _) option.toList_name_ne_nil (String.toList_append),
    addLong, splitValue_of_not_mem option.equals_not_mem_name, String.ofList_toList]
  dsimp only
  rw [ValueOption.ofName?_name]
  rfl

theorem next_joined (given : Given) (option : ValueOption) (value : String) :
    (fresh given false).next ("--" ++ option.name ++ "=" ++ value) =
      ((given.addValue value option).map (fresh · false)).mapError .fault := by
  have htext : ("--" ++ option.name ++ "=" ++ value).toList =
      '-' :: '-' :: (option.name.toList ++ '=' :: value.toList) := by simp
  rw [next_of_long rfl (isReady_fresh _ _ _) (by simp) htext, addLong,
    splitValue_append_cons option.equals_not_mem_name, String.ofList_toList, String.ofList_toList]
  dsimp only
  rw [ValueOption.ofName?_name]
  rfl

theorem next_list (given : Given) :
    (fresh given false).next "--list" = (given.addList.map (fresh · false)).mapError .fault := by
  have hlist : "--list".toList = ['-', '-', 'l', 'i', 's', 't'] := rfl
  have hsplit : splitValue ['l', 'i', 's', 't'] = (Flag.list.name, none) := by decide
  have hoption : ValueOption.ofName? Flag.list.name = none := by decide
  rw [next_of_long rfl (isReady_fresh _ _ _) (List.cons_ne_nil _ _) hlist, addLong, hsplit]
  dsimp only
  rw [hoption, Flag.ofName?_name]
  rfl

theorem next_value {option : ValueOption} {value : String}
    (h : (Group.separate option value).IsWritten) :
    next ⟨given, .option option none, false⟩ value =
      .ok ⟨given, .option option (some value), false⟩ := by
  cases option with
  | validatorArg => rfl
  | validator | extension => exact next_of_isPlain rfl (by simp) h

/-- What is checked at once is read on with. -/
theorem finish_cons_of_checked {reader : Reader} {argument : String}
    {checked : Except UsageFault Given}
    (h : reader.next argument = (checked.map (fresh · false)).mapError .fault) :
    reader.finish environment (argument :: more) = .ok settings ↔
      ∃ given', checked = .ok given' ∧
        (fresh given' false).finish environment more = .ok settings := by
  cases checked with
  | error fault =>
      have hstop : reader.next argument = .error (.fault fault) := h
      simp [finish_cons_ne_ok hstop]
  | ok given' =>
      rw [finish_cons_of_ok (h.trans rfl)]
      simp only [Except.ok.injEq, exists_eq_left']

/-- Reading a group adds it to what was given. -/
theorem finish_group_append {group : Group} (h : group.IsWritten) :
    (fresh given false).finish environment (group.arguments ++ more) = .ok settings ↔
      ∃ given', given.addGroup group = .ok given' ∧
        (fresh given' false).finish environment more = .ok settings := by
  cases group with
  | path text =>
      have hnext : (fresh given false).next text = .ok ⟨given, .paths [text], false⟩ :=
        next_eq_addPath (isReady_fresh _ _) (.inr h)
      rw [Group.arguments, List.singleton_append, finish_cons_of_ok hnext,
        finish_eq_ok_iff_settle fun _ => Waiting.noConfusion]
      rfl
  | separate option value =>
      rw [Group.arguments, List.cons_append, List.singleton_append,
        finish_cons_of_ok (next_option given option), finish_cons_of_ok (next_value h),
        finish_eq_ok_iff_settle fun _ => by simp]
      rfl
  | joined option value => exact finish_cons_of_checked (next_joined given option value)
  | list => exact finish_cons_of_checked (next_list given)

/-- Without its value an option is refused, where all arguments to come are paths. -/
theorem finish_onlyPaths_ne_ok {option : ValueOption} {arguments : List String} :
    finish ⟨given, .option option none, true⟩ environment arguments ≠ .ok settings := by
  cases arguments with
  | nil => nofun
  | cons argument arguments =>
      exact finish_cons_ne_ok (next_of_onlyPaths rfl : _ = addPath _ argument)

/-- An option that waits gets its value at once, or nothing is accepted. -/
theorem exists_value_of_finish {option : ValueOption} {arguments : List String}
    (h : finish ⟨given, .option option none, false⟩ environment arguments = .ok settings) :
    ∃ value rest, arguments = value :: rest ∧ (Group.separate option value).IsWritten := by
  have hsettle : settle ⟨given, .option option none, false⟩ =
      .error (.valueRequired (.option option)) := rfl
  cases arguments with
  | nil => cases h
  | cons argument arguments =>
      by_cases hwritten : (Group.separate option argument).IsWritten
      · exact ⟨argument, arguments, rfl, hwritten⟩
      · exfalso
        have hwaiting : Waiting.option option none ≠ .option .validatorArg none := by
          rintro ⟨⟩
          exact hwritten trivial
        have hplain : ¬ IsPlain argument := by
          cases option with
          | validatorArg => exact absurd rfl hwaiting
          | validator | extension => exact hwritten
        rcases (isPlain_or argument).resolve_left hplain with
          rfl | ⟨text, hne, htext⟩ | ⟨letter, rest, hne, htext⟩
        · rw [finish_cons_of_ok (next_hyphens rfl hwaiting)] at h
          exact finish_onlyPaths_ne_ok h
        · obtain ⟨stop, hstop⟩ := exists_stop_addLong hsettle text
          exact finish_cons_ne_ok ((next_of_long rfl hwaiting hne htext).trans hstop) h
        · obtain ⟨stop, hstop⟩ :=
            exists_stop_addShort ⟨given, .option option none, false⟩ letter
          exact finish_cons_ne_ok ((next_of_short rfl hwaiting hne htext).trans hstop) h

/-- What is accepted begins with a group, or with two hyphens. -/
theorem exists_group_of_finish {argument : String} {arguments : List String}
    (h : (fresh given false).finish environment (argument :: arguments) = .ok settings) :
    argument = "--" ∨ ∃ (group : Group) (more : List String), group.IsWritten ∧
      argument :: arguments = group.arguments ++ more := by
  have hwaiting := isReady_fresh given false .validatorArg
  rcases isPlain_or argument with
    hplain | hhyphens | ⟨text, hne, htext⟩ | ⟨letter, rest, hne, htext⟩
  · exact .inr ⟨.path argument, arguments, hplain, rfl⟩
  · exact .inl hhyphens
  · refine .inr ?_
    have hnext : (fresh given false).next argument = (fresh given false).addLong text :=
      next_of_long rfl hwaiting hne htext
    rcases addLong_cases text with
      ⟨stop, hlong⟩ | ⟨option, rfl, hlong⟩ | ⟨option, value, rfl, hlong⟩ | ⟨flag, rfl, hlong⟩
    · exact absurd h (finish_cons_ne_ok (hnext.trans (hlong _)))
    · obtain rfl : argument = "--" ++ option.name := String.toList_inj.1 (by simp [htext])
      rw [finish_cons_of_ok (next_option given option)] at h
      obtain ⟨value, rest, rfl, hwritten⟩ := exists_value_of_finish h
      exact ⟨.separate option value, rest, hwritten, rfl⟩
    · obtain rfl : argument = "--" ++ option.name ++ "=" ++ value :=
        String.toList_inj.1 (by simp [htext])
      exact ⟨.joined option value, arguments, trivial, rfl⟩
    · cases flag with
      | list =>
          obtain rfl : argument = "--list" := String.toList_inj.1 htext
          exact ⟨.list, arguments, trivial, rfl⟩
      | help =>
          obtain ⟨stop, hstop⟩ := exists_stop_addHelp (fresh given false)
          exact absurd h (finish_cons_ne_ok ((hnext.trans (hlong _)).trans hstop))
  · obtain ⟨stop, hstop⟩ := exists_stop_addShort (fresh given false) letter
    exact absurd h (finish_cons_ne_ok ((next_of_short rfl hwaiting hne htext).trans hstop))

/-- Where all arguments to come are paths, they are added together. -/
theorem finish_paths {paths : List String} :
    (fresh given true).finish environment paths = .ok settings ↔
      ∃ given', given.addPaths paths = .ok given' ∧ given'.settings environment = .ok settings := by
  induction paths generalizing given with
  | nil =>
      simp only [finish_nil_eq_ok_iff, settle_fresh, Given.addPaths_eq_ok_iff, Except.ok.injEq]
      simp
  | cons path paths ih =>
      have hnext : (fresh given true).next path = .ok ⟨given, .paths [path], true⟩ :=
        next_eq_addPath (isReady_fresh _ _) (.inl rfl)
      have hcons : path :: paths = [path] ++ paths := rfl
      rw [finish_cons_of_ok hnext, finish_eq_ok_iff_settle fun _ => Waiting.noConfusion, hcons]
      simp only [ih, settle, Given.addPaths_append_eq_ok_iff]
      constructor
      · rintro ⟨next, hpath, given', hpaths, hsettings⟩
        exact ⟨given', ⟨next, hpath, hpaths⟩, hsettings⟩
      · rintro ⟨given', ⟨next, hpath, hpaths⟩, hsettings⟩
        exact ⟨next, hpath, given', hpaths, hsettings⟩

end Reader

/-! ## Lines -/

section Lines

variable {given : Given} {environment : Option String} {arguments more : List String}
  {settings : Settings}

/-- What is accepted is put together from groups, and may end with paths behind two hyphens. -/
theorem exists_line_of_finish
    (h : (Reader.fresh given false).finish environment arguments = .ok settings) :
    ∃ line : Line, line.arguments = arguments ∧ ∀ group ∈ line.groups, group.IsWritten := by
  induction hn : arguments.length using Nat.strongRecOn generalizing given arguments with
  | ind n ih =>
      cases arguments with
      | nil => exact ⟨⟨[], none⟩, rfl, fun _ => nofun⟩
      | cons argument arguments =>
          rcases Reader.exists_group_of_finish h with rfl | ⟨group, more, hwritten, hgroup⟩
          · exact ⟨⟨[], some arguments⟩, rfl, fun _ => nofun⟩
          · rw [hgroup] at h hn ⊢
            obtain ⟨given', -, hmore⟩ := (Reader.finish_group_append hwritten).1 h
            have hlt : more.length < n := by
              have hpos : 0 < group.arguments.length := by cases group <;> exact Nat.succ_pos _
              rw [← hn, List.length_append]
              omega
            obtain ⟨⟨groups, rest⟩, hline, hgroups⟩ := ih _ hlt hmore rfl
            refine ⟨⟨group :: groups, rest⟩, ?_, List.forall_mem_cons.2 ⟨hwritten, hgroups⟩⟩
            rw [← hline, Line.arguments, Line.arguments, List.flatMap_cons, List.append_assoc]

/-- Groups are accepted if they are filled and none is one too many. -/
theorem finish_groups_append {groups : List Group} (h : ∀ group ∈ groups, group.IsWritten) :
    (Reader.fresh given false).finish environment (groups.flatMap Group.arguments ++ more) =
        .ok settings ↔
      (∀ group ∈ groups, group.IsFilled) ∧ given.Admits groups ∧
        (Reader.fresh (given.withGroups groups) false).finish environment more = .ok settings := by
  induction groups generalizing given with
  | nil => simp [Given.admits_nil]
  | cons group groups ih =>
      obtain ⟨hgroup, hgroups⟩ := List.forall_mem_cons.1 h
      have hcons : group :: groups = [group] ++ groups := rfl
      rw [List.flatMap_cons, List.append_assoc, Reader.finish_group_append hgroup]
      simp only [Given.addGroup_eq_ok_iff, ih hgroups]
      rw [List.forall_mem_cons, hcons, Given.admits_append, Given.withGroups_append]
      constructor
      · rintro ⟨given', ⟨hfilled, hadmits, rfl⟩, hfilled', hadmits', hmore⟩
        exact ⟨⟨hfilled, hfilled'⟩, ⟨hadmits, hadmits'⟩, hmore⟩
      · rintro ⟨⟨hfilled, hfilled'⟩, ⟨hadmits, hadmits'⟩, hmore⟩
        exact ⟨_, ⟨hfilled, hadmits, rfl⟩, hfilled', hadmits', hmore⟩

/-- The paths behind two hyphens are accepted if none is empty. -/
theorem finish_rest {rest : Option (List String)} :
    (Reader.fresh given false).finish environment (Line.restArguments rest) = .ok settings ↔
      (∀ path ∈ rest.getD [], path ≠ "") ∧
        { given with paths := given.paths ++ rest.getD [] }.settings environment =
          .ok settings := by
  cases rest with
  | none => simp [Line.restArguments, Reader.finish_nil_eq_ok_iff, Reader.settle_fresh]
  | some paths =>
      have hnext : (Reader.fresh given false).next "--" = .ok (Reader.fresh given true) :=
        Reader.next_hyphens rfl (Reader.isReady_fresh given false .validatorArg)
      rw [Line.restArguments, Reader.finish_cons_of_ok hnext, Reader.finish_paths]
      simp only [Given.addPaths_eq_ok_iff, Option.getD_some]
      constructor
      · rintro ⟨given', ⟨hpaths, rfl⟩, hsettings⟩
        exact ⟨hpaths, hsettings⟩
      · rintro ⟨hpaths, hsettings⟩
        exact ⟨_, ⟨hpaths, rfl⟩, hsettings⟩

theorem Given.settings_eq_ok_iff : given.settings environment = .ok settings ↔
    (given.validator = none → environment ≠ some "") ∧
      { paths := if given.paths = [] then [defaultPath] else given.paths
        extensions := if given.extensions = [] then [defaultExtension] else given.extensions
        validator := (given.validator.or environment).getD defaultValidator
        validatorArgs := given.validatorArgs
        list := given.list : Settings } = settings := by
  unfold Given.settings Given.chooseValidator
  cases given.validator with
  | some validator => simp [Except.map]
  | none =>
      cases environment with
      | none => simp [Except.map]
      | some validator => by_cases hempty : validator = "" <;> simp [Except.map, hempty]

end Lines

/-- The command line is accepted if it is put together from groups, and the settings are what these
mean. -/
theorem read_eq_ok_iff {arguments : List String} {environment : Option String}
    {settings : Settings} :
    read arguments environment = .ok settings ↔
      ∃ line : Line, line.arguments = arguments ∧ line.IsAllowed environment ∧
        line.settings environment = settings := by
  have hline (line : Line) (hwritten : ∀ group ∈ line.groups, group.IsWritten) :
      read line.arguments environment = .ok settings ↔
        line.IsAllowed environment ∧ line.settings environment = settings := by
    have hread : read line.arguments environment = (Reader.fresh .nothing false).finish environment
        line.arguments := rfl
    have hadmits : Given.nothing.Admits line.groups ↔
        (line.values .validator).length ≤ 1 ∧ line.groups.count .list ≤ 1 := by
      simp [Given.Admits, Given.nothing, Line.values]
    have hvalidator : (Given.nothing.withGroups line.groups).validator = none ↔
        line.values .validator = [] := List.head?_eq_none_iff
    rw [hread, Line.arguments, finish_groups_append hwritten, finish_rest, Given.settings_eq_ok_iff,
      hadmits]
    dsimp only
    rw [hvalidator]
    constructor
    · rintro ⟨hfilled, ⟨hvalidators, hlists⟩, hrest, henvironment, hsettings⟩
      exact ⟨⟨hwritten, hfilled, hrest, hvalidators, hlists, henvironment⟩, hsettings⟩
    · rintro ⟨hallowed, hsettings⟩
      exact ⟨hallowed.filled, ⟨hallowed.validator, hallowed.list⟩, hallowed.rest,
        hallowed.environment, hsettings⟩
  constructor
  · intro hread
    obtain ⟨line, rfl, hwritten⟩ := exists_line_of_finish hread
    exact ⟨line, rfl, (hline line hwritten).1 hread⟩
  · rintro ⟨line, rfl, hallowed⟩
    exact (hline line hallowed.1.written).2 hallowed

end ShaderLiterals.CommandLine
