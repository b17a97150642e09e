import ProseGuard.Proofs.Candidate.Collect
import ProseGuard.Proofs.Command.Agreement
import ProseGuard.Proofs.Comment.Reordering
import ProseGuard.Proofs.Guard.ReadBack
import ProseGuard.Proofs.Program.Reread
import ProseGuard.Proofs.Text.Integer

/-!
# The command and the service

The guards command on a program file and the service on a request that holds the same types and
members come to the same guards, whatever pipelines are at hand. Main statement: `service_agrees`.
An answer is a text in UTF-8, so that guards in which half of a surrogate pair stands are not
answered, nor printed on an output in UTF-8, and a threshold has as many digits as an integer may
have: `service_disagrees`.
-/

namespace ProseGuard.Command

open Comment (Member Pipelines)
open Http (Request Response Service)
open Json (Members)
open Program (TypeDecl)
open Record (Checked)

/-- The members of an object hold the lists of the types and of the members of a program. -/
structure Holds (entries : Members) (types members : List Json) : Prop where
  types : entries.lookup ("types" : Text) = some (.array types)
  members : entries.lookup ("members" : Text) = some (.array members)

variable {pipelines : Pipelines} {files : Files} {environment : Option Text}
  {args : GuardsArguments} {line : List Text}
  {settings : Settings} {rank : Int} {threshold : Nat} {entries request : Members}
  {types members : List Json} {ts : List TypeDecl} {ms : List Member}

/-! ## What is loaded and what is asked -/

/-- A list under a key is taken as it is. -/
theorem listUnder_of_lookup {key : Text} {items : List Json}
    (h : entries.lookup key = some (.array items)) :
    (Json.object entries).listUnder key = .ok items := by
  simp [Json.listUnder, h, Json.iterate]

/-- A file that holds valid types is read as the program of them. -/
theorem load_of_holds {path : Text} (hfile : files.readJson path = .ok (.object entries))
    (hentries : Holds entries types members) (htypes : types.map TypeDecl.ofJson = ts.map .valid) :
    Program.load files path = .ok (.ofTypes ts) := by
  rw [Program.load, hfile]
  exact Program.ofJson_eq_ok_iff.2 ⟨types, ts, listUnder_of_lookup hentries.types, htypes, rfl⟩

/-- A file that holds valid members is read as them. -/
theorem loadMembers_of_holds {path : Text} (hfile : files.readJson path = .ok (.object entries))
    (hentries : Holds entries types members)
    (hmembers : members.map Member.ofJson = ms.map .valid) :
    Program.loadMembers files path = .ok ms := by
  rw [Program.loadMembers, hfile]
  show ((Json.object entries).listUnder "members" >>= _) = _
  rw [listUnder_of_lookup hentries.members]
  exact mapM_orElse_eq_ok_iff.2 hmembers

/-- A request that holds valid types and members and a threshold is read as one for them. -/
theorem request_of_holds (hrequest : Holds request types members)
    (htypes : types.map TypeDecl.ofJson = ts.map .valid)
    (hmembers : members.map Member.ofJson = ms.map .valid)
    (hasked : request.lookup ("distance_threshold" : Text) = some (.integer threshold)) :
    Request.ofJson (.object request) = .valid ⟨ts, ms, some threshold⟩ := by
  have htypes' : Record.listOf TypeDecl.ofJson (.array types) = .valid ts :=
    Checked.each_eq_valid_iff.2 htypes
  have hmembers' : Record.listOf Member.ofJson (.array members) = .valid ms :=
    Checked.each_eq_valid_iff.2 hmembers
  simp [Request.ofJson, Record.ofObject, Record.optional, Record.required, hrequest.types,
    hrequest.members, hasked, htypes', hmembers', Http.nullable]

/-- A command line that asks for a threshold, and for nothing else that guards depend on, loads what
the request asks for. -/
theorem load_of_threshold (hthreshold : args.threshold = some (.value (threshold : Int)))
    (hsource : args.source = none)
    (hsettings : Settings.load files environment args.settings [] = .ok settings)
    (hrank : levelRank settings.logLevel = .ok rank)
    (hprogram : Program.load files args.program = .ok (.ofTypes ts))
    (hmembers : Program.loadMembers files args.program = .ok ms) :
    ∃ rank, load files environment args =
      .ok ⟨{ settings with threshold := threshold }, rank, .ofTypes ts, ms⟩ := by
  have heffective : Settings.effective args.overrides =
      ([("distance_threshold", .integer threshold)] : Members) := by
    rw [GuardsArguments.overrides, hthreshold, hsource]
    rfl
  have hload := Settings.load_threshold hsettings threshold heffective
  obtain ⟨asked, hasked⟩ : ∃ asked, levelRank (levelAsked args
      { settings with threshold := threshold }) = .ok asked := by
    cases hverbose : args.verbose with
    | true => exact ⟨10, by rw [levelAsked, hverbose]; with_unfolding_all rfl⟩
    | false => exact ⟨rank, by rw [levelAsked, hverbose]; exact hrank⟩
  refine ⟨effectiveRank asked, ?_⟩
  rw [load_of_settings hload hasked, hprogram, hmembers]
  rfl

/-- The service answers a request that holds valid types and members. -/
theorem respond_of_holds (hrequest : Holds request types members)
    (htypes : types.map TypeDecl.ofJson = ts.map .valid)
    (hmembers : members.map Member.ofJson = ms.map .valid)
    (hasked : request.lookup ("distance_threshold" : Text) = some (.integer threshold)) :
    (Service.mk settings pipelines).respond (.object request) =
      (Service.mk settings pipelines).answer ⟨ts, ms, some threshold⟩ := by
  rw [Service.respond, request_of_holds hrequest htypes hmembers hasked]

/-- The service answers with what the command's guards come to. -/
theorem result_guards (hmember : args.member = none) (rank : Int) :
    ((Service.mk settings pipelines).guards ⟨ts, ms, some threshold⟩).result =
      guardsOf pipelines args
        ⟨{ settings with threshold := threshold }, rank, .ofTypes ts, ms⟩ := by
  rw [Service.guards, Run.result_mapM, guardsOf, GuardsArguments.selected, hmember]
  rfl

/-! ## Agreement -/

/-- Of valid types and members, with settings that name a level and a threshold that the command
line can give, and whatever pipelines are at hand, the command and the service agree. -/
theorem service_agrees (hline : guardsGrammar.read {} line = .ok args)
    (hthreshold : args.threshold = some (.value (threshold : Int)))
    (hsource : args.source = none) (hmember : args.member = none)
    (hsettings : Settings.load files environment args.settings [] = .ok settings)
    (hrank : levelRank settings.logLevel = .ok rank)
    (hfile : files.readJson args.program = .ok (.object entries))
    (hentries : Holds entries types members) (hrequest : Holds request types members)
    (hasked : request.lookup ("distance_threshold" : Text) = some (.integer threshold))
    (htypes : types.map TypeDecl.ofJson = ts.map .valid)
    (hmembers : members.map Member.ofJson = ms.map .valid) (pipelines : Pipelines)
    (carries : Text → Bool) :
    Agree carries (guards files environment line pipelines carries)
      ((Service.mk settings pipelines).respond (.object request)) := by
  obtain ⟨shown, hload⟩ := load_of_threshold hthreshold hsource hsettings hrank
    (load_of_holds hfile hentries htypes) (loadMembers_of_holds hfile hentries hmembers)
  have hresult : ((Service.mk settings pipelines).guards ⟨ts, ms, some threshold⟩).result =
      guardsOf pipelines args
        ⟨{ settings with threshold := threshold }, shown, .ofTypes ts, ms⟩ :=
    result_guards hmember shown
  rw [guards_of_read hline, perform, hload,
    respond_of_holds hrequest htypes hmembers hasked, Service.answer, hresult]
  rcases guardsOf_cases pipelines args
      ⟨{ settings with threshold := threshold }, shown, .ofTypes ts, ms⟩ with
    ⟨guards, hguards⟩ | ⟨reason, -, hguards⟩ | ⟨fault, hguards⟩
  · rw [hguards]
    exact agree_of_guards hguards
  · rw [hguards]
    exact agree_of_problem hguards
  · rw [hguards]
    exact agree_of_fault hguards

/-! ## A member whose guards are printed and answered -/

/-- A program file beside a settings file. -/
def servedFiles (settings program : Text) : Files :=
  .ofList [
    ("settings.json".toUTF8.toList, settings.shown.toUTF8),
    ("program.json".toUTF8.toList, program.shown.toUTF8)]

/-- The program file is read as what its text is read as. -/
theorem readJson_servedFiles {settings program : Text} {value : Json} (hwhole : program.isWhole)
    (hread : Json.read program = .ok value) :
    (servedFiles settings program).readJson "program.json" = .ok value := by
  have hutf8 : String.fromUTF8? program.shown.toUTF8 = some program.shown := by
    simp [String.fromUTF8?, String.fromUTF8, program.shown.isValidUTF8]
  have hpath : Path.ofText? "program.json" = some "program.json".toUTF8.toList := by
    decide +kernel
  have hfile : servedFiles settings program "program.json".toUTF8.toList =
      .file program.shown.toUTF8 := by
    with_unfolding_all rfl
  rw [Files.readJson, hpath]
  refine Files.readAt_eq_ok_iff.2 ⟨by decide +kernel, _, _, hfile, hutf8, ?_⟩
  rw [Text.ofString_shown hwhole, hread]

/-- A settings file that names the object itself. -/
def boxSettingsText : Text :=
  "\x7b\"receiver\":\"self\"\x7d"

/-- A program file with a type and with the documentation of one of its methods. -/
def boxProgramText : Text :=
  "\x7b\"types\":[\x7b\"name\":\"Box\"," ++ "\"methods\":[\x7b\"name\":\"isFull\"," ++
    "\"return_type\":\"boolean\"\x7d," ++ "\x7b\"name\":\"add\"\x7d]\x7d]," ++
    "\"members\":[\x7b\"name\":\"add\"," ++ "\"containing_type\":\"Box\"," ++
    "\"throws_tags\":[\x7b\"exception\":" ++ "\"IllegalStateException\"," ++
    "\"comment\":\"if the box is full\"" ++ "\x7d]\x7d]\x7d"

/-- The settings that the settings file makes: the source is the standard pipeline. -/
def boxSettings : Settings :=
  { Settings.standard with
    receiver := "self", receiver_ne := by decide, receiver_whole := Text.isWhole_ofString "self" }

/-- A command line that asks for a threshold of four, the distance of "the box" from "box". -/
def boxLine : List Text :=
  ["program.json", "--settings", "settings.json", "--threshold", "4"]

/-- What that line tells. -/
def boxArguments : GuardsArguments where
  program := "program.json"
  settings := some "settings.json"
  threshold := some (.value 4)

/-- The question whether a box is full. -/
def isFullMethod : Program.Method where
  name := "isFull"
  returnType := "boolean"
  declaringType := "Box"

/-- The documented method. -/
def addMethod : Program.Method where
  name := "add"
  declaringType := "Box"

/-- The type that declares both, as it is described. -/
def boxType : TypeDecl where
  name := "Box"
  methods := [{ name := "isFull", returnType := "boolean" }, { name := "add" }]

/-- The documentation of the method. -/
def boxMember : Member where
  name := "add"
  containingType := "Box"
  throwsTags := [⟨"IllegalStateException", "if the box is full"⟩]

/-- The description of the type, as the program file and the request give it. -/
def boxTypeJson : Json :=
  .object [("name", .string "Box"), ("methods", .array [
    .object [("name", .string "isFull"), ("return_type", .string "boolean")],
    .object [("name", .string "add")]])]

/-- The description of the member, as the program file and the request give it. -/
def boxMemberJson : Json :=
  .object [("name", .string "add"), ("containing_type", .string "Box"), ("throws_tags", .array [
    .object [("exception", .string "IllegalStateException"),
      ("comment", .string "if the box is full")]])]

/-- A request for the guards of the member with the threshold of the command line. -/
def boxRequest : Members :=
  [("types", .array [boxTypeJson]), ("members", .array [boxMemberJson]),
    ("distance_threshold", .integer 4)]

/-- The dependency tree of a sentence. -/
def fullTree : Comment.Tree :=
  .node ⟨"is", 2, "ROOT", "be"⟩ [
    .node ⟨"box", 1, "nsubj", "box"⟩ [.node ⟨"the", 0, "det", "the"⟩ []],
    .node ⟨"full", 3, "acomp", "full"⟩ []]

/-- The standard pipeline, which finds that tree, and no other pipeline. -/
def boxPipelines : Pipelines where
  load model :=
    if model = Settings.standard.pipelineModel then
      .ok fun text => .ok (if text = "the box is full" then [⟨text, fullTree⟩] else [])
    else .error "no such model"

/-- What is loaded of the files. -/
def boxContext : Context :=
  .ofSettings (.ofTypes [boxType]) { boxSettings with threshold := 4 } boxPipelines

/-- The guards of the member: the question about the box stands for the comment. -/
def boxGuards : MemberGuards where
  member := "Box.add()"
  preconditions := []
  throws := [⟨.throws, "IllegalStateException", "if the box is full", some "self.isFull()"⟩]

theorem resolves_boxMember :
    boxContext.program.Resolves boxMember boxType.claimed (.method addMethod) :=
  .of_no_supertypes (by decide) rfl rfl (by decide)

/-- The pool of the method: the type, and the question about it. -/
def boxPool : Candidate.Pool :=
  .ofOffers [Candidate.typeElement boxType.claimed "self",
    Candidate.methodElement isFullMethod "self" []]

theorem collect_boxMember : (boxContext.collect boxMember).result = .ok boxPool := by
  have hoffers : boxContext.offers boxMember boxType.claimed (.method addMethod) [] =
      [Candidate.typeElement boxType.claimed "self",
        Candidate.methodElement isFullMethod "self" []] := by
    rw [Context.offers, Context.callElements, Program.methods_of_no_supertypes _ rfl,
      Program.fields_of_no_supertypes _ rfl]
    decide
  have hmined : boxMember.parameters.mapM (boxContext.minedFor boxMember) = .ok [] := rfl
  rw [Context.result_collect _ _ resolves_boxMember, hmined, Run.ok_map, hoffers, boxPool]

/-- What is asked of the box is whether it is full. -/
theorem reachable_boxMember :
    boxContext.reachable boxMember (Candidate.typeElement boxType.claimed "self") =
      [Candidate.methodElement isFullMethod "self" []] := by
  have hfind : boxContext.program.find? "Box" = some boxType.claimed := by decide
  have hmembers : boxContext.membersOf "self" (some "Box") =
      [Candidate.methodElement isFullMethod "self" []] := by
    rw [Context.membersOf_of_find? (by decide) (by decide) hfind, Context.booleanMembers,
      Program.methods_of_no_supertypes _ rfl, Program.fields_of_no_supertypes _ rfl]
    decide
  show distinctBy Candidate.Element.identity (boxContext.membersOf "self" (some "Box")) = _
  rw [hmembers]
  rfl

/-- The tree says of the box that it is full. -/
theorem proposition_fullTree : fullTree.proposition = ⟨"the box", "full", false, "full"⟩ := by
  have hsubject : fullTree.subjectText = "the box" := by
    have hspan : Comment.spanText [⟨"box", 1, "nsubj", "box"⟩, ⟨"the", 0, "det", "the"⟩] =
        "the box" :=
      (Comment.isSpan_spanText (by decide)).unique ⟨[⟨"the", 0, "det", "the"⟩,
        ⟨"box", 1, "nsubj", "box"⟩], by decide, fun w => (List.Perm.swap _ _ []).mem_iff, by decide⟩
    show ([Comment.spanText [⟨"box", 1, "nsubj", "box"⟩, ⟨"the", 0, "det", "the"⟩]].find?
      fun span : Text => span ≠ "").getD "" = _
    rw [hspan]
    rfl
  have hpredicate : Comment.spanText fullTree.predicateTokens = "full" := by
    show Comment.spanText [⟨"full", 3, "acomp", "full"⟩] = _
    simp only [Comment.spanText, List.mergeSort_singleton]
    decide
  rw [Comment.Tree.proposition, hsubject, hpredicate]
  rfl

theorem memberGuards_boxMember : (boxContext.memberGuards boxMember).result = .ok boxGuards := by
  have hread : (boxContext.source.read (withoutLead "if the box is full")).result =
      .ok [⟨"the box", "full", false, "full"⟩] := by
    have htext : withoutLead "if the box is full" = "the box is full" := by decide
    show ((Comment.Source.named boxPipelines Settings.standard.pipelineModel).read _).result = _
    have hkept : Comment.Source.ofSentences [⟨"the box is full", fullTree⟩] =
        [fullTree.proposition] := by
      rw [Comment.Source.ofSentences, List.filter_cons_of_pos (by decide)]
      rfl
    rw [htext, Comment.Source.result_named, if_neg (by decide), ← proposition_fullTree, ← hkept]
    rfl
  have hnamed : boxContext.named boxPool "the box" =
      [Candidate.typeElement boxType.claimed "self"] := by decide
  have hstated : boxContext.condition? boxMember (Candidate.typeElement boxType.claimed "self")
      "full" false = some ("self.isFull()" : Text) := by
    have hplain : Guard.Suffix.ofPredicate? "full" = none := by decide
    rw [Context.condition?, Context.statement?, hplain, reachable_boxMember]
    decide
  have hproposition : (boxContext.propositionCondition boxMember
      ⟨"the box", "full", false, "full"⟩).result = .ok (some "self.isFull()") := by
    rw [Context.result_propositionCondition, collect_boxMember, Run.ok_map]
    exact congrArg Except.ok ((Context.propositionCondition?_of_named
      ⟨"the box", "full", false, "full"⟩ hnamed).trans hstated)
  refine Context.memberGuards_eq_ok_iff.2 ⟨by decide, .nil, .cons ?_ .nil⟩
  rw [Context.result_throwsGuard, Context.result_textCondition hread (.cons hproposition .nil)]
  rfl

/-- An answer can hold the guards. -/
theorem isWritable_boxGuards : IsWritable (.array [boxGuards.toJson]) := by
  unfold IsWritable
  decide

theorem read_boxLine : guardsGrammar.read {} boxLine = .ok boxArguments := by
  with_unfolding_all rfl

theorem load_boxFiles : Settings.load (servedFiles boxSettingsText boxProgramText) none
    boxArguments.settings [] = .ok boxSettings := by
  with_unfolding_all rfl

theorem levelRank_boxSettings : levelRank boxSettings.logLevel = .ok 30 := by
  with_unfolding_all rfl

set_option maxRecDepth 4000 in
theorem readJson_boxProgram :
    (servedFiles boxSettingsText boxProgramText).readJson boxArguments.program =
      .ok (.object [("types", .array [boxTypeJson]), ("members", .array [boxMemberJson])]) :=
  readJson_servedFiles (by simp [boxProgramText, Text.isWhole_append]) (by with_unfolding_all rfl)

/-- At the higher threshold a comment of the member is translated by the tree that the pipeline
finds in it: on an output in UTF-8 the command prints just the list that the service answers
with. -/
theorem service_agrees_boxMember :
    Agree Text.isWhole
      (guards (servedFiles boxSettingsText boxProgramText) none boxLine boxPipelines Text.isWhole)
      ((Service.mk boxSettings boxPipelines).respond (.object boxRequest)) ∧
    Answers ((Service.mk boxSettings boxPipelines).respond (.object boxRequest))
      [boxGuards.toJson] ∧
    Prints
      (guards (servedFiles boxSettingsText boxProgramText) none boxLine boxPipelines Text.isWhole)
      [boxGuards.toJson] := by
  have hthreshold : boxArguments.threshold = some (.value ((4 : Nat) : Int)) := rfl
  have htypes : [boxTypeJson].map TypeDecl.ofJson = [boxType].map .valid := rfl
  have hmembers : [boxMemberJson].map Member.ofJson = [boxMember].map .valid := rfl
  have hholds : Holds boxRequest [boxTypeJson] [boxMemberJson] := ⟨rfl, rfl⟩
  have hagree := service_agrees read_boxLine hthreshold rfl rfl load_boxFiles levelRank_boxSettings
    readJson_boxProgram ⟨rfl, rfl⟩ hholds rfl htypes hmembers boxPipelines Text.isWhole
  have hguards : ((Service.mk boxSettings boxPipelines).guards
      ⟨[boxType], [boxMember], some 4⟩).result = .ok [boxGuards] := by
    rw [Service.guards, Run.result_mapM, Run.mapM_eq_ok_iff]
    exact .cons memberGuards_boxMember .nil
  have hanswers : Answers ((Service.mk boxSettings boxPipelines).respond (.object boxRequest))
      [boxGuards.toJson] := by
    rw [respond_of_holds hholds htypes hmembers rfl, Service.answer, hguards]
    exact answers_ofGuards_iff.2 ⟨isWritable_boxGuards, rfl⟩
  have hcarries : (listText [boxGuards.toJson]).isWhole = true :=
    (isWhole_printed [boxGuards]).trans (congrArg not isWritable_boxGuards)
  exact ⟨hagree, hanswers, hagree.answered _ hanswers hcarries⟩

/-! ## A member whose guards are not answered, and a threshold that is not read -/

/-- A name in which half of a surrogate pair stands. -/
def brokenName : Text :=
  [.char 'p', .half 0]

/-- A settings file that asks for the pattern source. -/
def patternSettingsText : Text :=
  "\x7b\"proposition_source\":\"pattern\"\x7d"

/-- A program file without types, whose member has that name. -/
def brokenProgramText : Text :=
  "\x7b\"types\":[],\"members\":[\x7b\"name\":" ++ "\"p\\ud800\",\"containing_type\":\"Box\"" ++
    "\x7d]\x7d"

/-- The settings that the settings file makes. -/
def patternSettings : Settings :=
  { Settings.standard with source := .pattern }

/-- A command line that asks for a threshold of two. -/
def brokenLine : List Text :=
  ["program.json", "--settings", "settings.json", "--threshold", "2"]

/-- What that line tells. -/
def brokenArguments : GuardsArguments where
  program := "program.json"
  settings := some "settings.json"
  threshold := some (.value 2)

/-- The description of the member. -/
def brokenMemberJson : Json :=
  .object [("name", .string brokenName), ("containing_type", .string "Box")]

/-- The member, which has no tags. -/
def brokenMember : Member where
  name := brokenName
  containingType := "Box"

/-- A request for the guards of that member, with a threshold of two. -/
def brokenRequest : Members :=
  [("types", .array []), ("members", .array [brokenMemberJson]), ("distance_threshold", .integer 2)]

theorem read_brokenLine : guardsGrammar.read {} brokenLine = .ok brokenArguments := by
  with_unfolding_all rfl

theorem load_patternFiles : Settings.load (servedFiles patternSettingsText brokenProgramText) none
    brokenArguments.settings [] = .ok patternSettings := by
  with_unfolding_all rfl

set_option maxRecDepth 4000 in
theorem readJson_brokenProgram :
    (servedFiles patternSettingsText brokenProgramText).readJson brokenArguments.program =
      .ok (.object [("types", .array []), ("members", .array [brokenMemberJson])]) :=
  readJson_servedFiles (by simp [brokenProgramText, Text.isWhole_append])
    (by with_unfolding_all rfl)

/-- The guards of the member are there, and an output in UTF-8 cannot carry them. -/
theorem guards_brokenFiles :
    guards (servedFiles patternSettingsText brokenProgramText) none brokenLine .absent
      Text.isWhole = .error (.fault .unwritableText) := by
  have hthreshold : brokenArguments.threshold = some (.value ((2 : Nat) : Int)) := rfl
  have hholds : Holds [("types", .array []), ("members", .array [brokenMemberJson])] []
      [brokenMemberJson] := ⟨rfl, rfl⟩
  have hrank : levelRank patternSettings.logLevel = .ok 30 := by
    with_unfolding_all rfl
  have htypes : ([] : List Json).map TypeDecl.ofJson = ([] : List TypeDecl).map .valid := rfl
  have hmembers : [brokenMemberJson].map Member.ofJson = [brokenMember].map .valid := rfl
  obtain ⟨shown, hload⟩ := load_of_threshold hthreshold rfl load_patternFiles hrank
    (load_of_holds readJson_brokenProgram hholds htypes)
    (loadMembers_of_holds readJson_brokenProgram hholds hmembers)
  have hguards : guardsOf .absent brokenArguments
      ⟨{ patternSettings with threshold := 2 }, shown, .ofTypes [], [brokenMember]⟩ =
        .ok [⟨brokenMember.signature, [], []⟩] := rfl
  rw [guards_of_read read_brokenLine, perform, hload]
  exact finish_of_uncarried hguards (by decide)

/-- A word that is no double hyphen is read by itself. -/
theorem words_cons {σ : Type} {g : Grammar σ} {text : Text} {texts : List Text} {word : Word σ}
    {words : List (Word σ)} (hne : text ≠ "--") (hword : g.classify text = .ok word)
    (hwords : g.words texts = .ok words) : g.words (text :: texts) = .ok (word :: words) := by
  rw [Grammar.words, if_neg hne, hword, hwords]
  rfl

/-- A threshold that is no integer is not read. -/
theorem read_eq_error_of_threshold {text : Text} (hplain : startsWith "-" text = false)
    (hread : Text.readInteger? text = none) :
    ∃ stop, guardsGrammar.read {} ["program.json", "--threshold", text] = .error stop := by
  have hne : text ≠ "--" := by
    rintro rfl
    exact absurd hplain (by decide)
  have hclass : guardsGrammar.classify text = .ok (.plain text) := by
    simp [Grammar.classify, hplain]
  have hwords : guardsGrammar.words ["program.json", "--threshold", text] =
      .ok [.plain "program.json", .switch guardsGrammar.switches[3] none, .plain text] :=
    words_cons (by decide) rfl (words_cons (by decide) (by with_unfolding_all rfl)
      (words_cons hne hclass rfl))
  rw [Grammar.read, hwords]
  refine ⟨complaint guardsGrammar.switches[3] ("invalid int value: " ++ Text.quoted text), ?_⟩
  have hgiven : (Given.ofText text).read integerValue =
      .error ("invalid int value: " ++ Text.quoted text) := by
    rw [Given.ofText, if_neg hne, Given.read, integerValue, hread]
    rfl
  have happly : ∀ p : Progress GuardsArguments, p.apply guardsGrammar.switches[3] (some text) =
      .error (complaint guardsGrammar.switches[3] ("invalid int value: " ++ Text.quoted text)) := by
    intro p
    simp [Progress.apply, guardsGrammar, hgiven, Except.map]
  show ((Progress.apply _ guardsGrammar.switches[3] (some text) >>= fun p => .ok (p, true)) >>=
    _) >>= _ = _
  rw [happly]
  rfl

/-- The member is valid, and yet the command ends in a fault and the service fails. A threshold of
too many digits is not read. -/
theorem service_disagrees :
    ((servedFiles patternSettingsText brokenProgramText).readJson brokenArguments.program =
        .ok (.object [("types", .array []), ("members", .array [brokenMemberJson])]) ∧
      [brokenMemberJson].map Member.ofJson = [brokenMember].map .valid ∧
      Settings.load (servedFiles patternSettingsText brokenProgramText) none
        brokenArguments.settings [] = .ok patternSettings ∧
      guards (servedFiles patternSettingsText brokenProgramText) none brokenLine .absent
        Text.isWhole = .error (.fault .unwritableText) ∧
      ((Service.mk patternSettings .absent).respond (.object brokenRequest)).status = 500) ∧
    ∃ stop, guardsGrammar.read {}
      ["program.json", "--threshold", List.replicate 4301 (.char '9')] = .error stop := by
  refine ⟨⟨readJson_brokenProgram, rfl, load_patternFiles, guards_brokenFiles, ?_⟩, ?_⟩
  · decide
  · have hdigits : ∀ c ∈ List.replicate 4301 (Point.char '9'), Text.isAsciiDigit c := by
      intro c hc
      rw [List.eq_of_mem_replicate hc]
      decide
    have hne : List.replicate 4301 (Point.char '9') ≠ [] := List.cons_ne_nil _ _
    have hread := Text.readInteger?_of_digits hne hdigits
    rw [List.length_replicate, if_neg (by decide)] at hread
    exact read_eq_error_of_threshold rfl hread

end ProseGuard.Command
