import Delivery.Proofs.Domain.Rows
set_option autoImplicit false

namespace Delivery

structure Format where
  Row : Type
  codec : Codec Row
  moments : Row → List Instant := fun _ => []
  embedded : Row → List Json := fun _ => []
  -- The type of the text, if every field has a default.
  schema : Option Json.Schema := none

namespace Format

def rows : List Format := [
  { Row := AuditLog, codec := AuditLog.codec, moments := AuditLog.moments },
  { Row := NewArtifact, codec := NewArtifact.codec, moments := (·.audit.moments) },
  { Row := Artifact, codec := Artifact.codec, moments := (·.audit.moments) },
  { Row := GitCommit, codec := GitCommit.codec, moments := (·.date.toList) },
  { Row := CiWorkflow, codec := CiWorkflow.codec, moments := CiWorkflow.moments },
  { Row := CiPipeline, codec := CiPipeline.codec },
  { Row := ExternalCiPipeline, codec := ExternalCiPipeline.codec },
  { Row := CdPipeline, codec := CdPipeline.codec },
  { Row := Application, codec := Application.codec },
  { Row := Environment, codec := Environment.codec },
  { Row := DownstreamTarget, codec := DownstreamTarget.codec },
  { Row := CdWorkflowRunner, codec := CdWorkflowRunner.codec, moments := fun runner => [runner.startedOn] },
  { Row := User, codec := User.codec },
  { Row := ChartRepo, codec := ChartRepo.codec },
  { Row := ChartRef, codec := ChartRef.codec, embedded := fun ref => [ref.defaultValues] },
  { Row := NewChart, codec := NewChart.codec, moments := (·.audit.moments),
    embedded := fun chart => [chart.values, chart.globalOverride] },
  { Row := Chart, codec := Chart.codec, moments := (·.audit.moments),
    embedded := fun chart => [chart.values, chart.globalOverride] },
  { Row := NewEnvOverride, codec := NewEnvOverride.codec, moments := (·.audit.moments),
    embedded := fun row => [row.values] },
  { Row := EnvOverride, codec := EnvOverride.codec, moments := (·.audit.moments), embedded := fun row => [row.values] },
  { Row := AppLevelMetrics, codec := AppLevelMetrics.codec, moments := (·.audit.moments) },
  { Row := EnvLevelMetrics, codec := EnvLevelMetrics.codec, moments := (·.audit.moments) },
  { Row := NewHistory, codec := NewHistory.codec, moments := NewHistory.moments,
    embedded := fun row => [row.template] },
  { Row := History, codec := History.codec, moments := (·.moments), embedded := fun row => [row.template] }]

def materials : List Format := [
  { Row := RepoConfiguration, codec := RepoConfiguration.codec, schema := RepoConfiguration.schema },
  { Row := Material, codec := Material.codec, schema := Material.schema },
  { Row := Modification, codec := Modification.codec, schema := Modification.schema },
  { Row := MaterialInfo, codec := MaterialInfo.codec, schema := MaterialInfo.schema }]

def requests : List Format := [
  { Row := BuildEventRequest, codec := BuildEventRequest.codec },
  { Row := TemplateRequest, codec := TemplateRequest.codec, embedded := fun request => [request.valuesOverride] }]

def Faithful (format : Format) : Prop :=
  ∀ row, (∀ moment ∈ format.moments row, moment.FourDigitYear) →
    format.codec.Keeps (∀ value ∈ format.embedded row, value.Readable (Json.depthLimit - 1) ∧ value.FloatFree)
      Json.depthLimit row ∧
    ∀ schema ∈ format.schema, format.codec.Forgives schema row

theorem rows_faithful : ∀ format ∈ rows, format.Faithful := by
  simp only [rows, List.forall_mem_cons, List.not_mem_nil, false_implies, implies_true, and_true]
  exact ⟨fun _ inYears => ⟨AuditLog.keeps inYears, nofun⟩,
    fun _ inYears => ⟨NewArtifact.keeps inYears, nofun⟩,
    fun _ inYears => ⟨Artifact.keeps inYears, nofun⟩,
    fun _ inYears => ⟨GitCommit.keeps fun moment some => inYears moment (Option.mem_toList.mpr some), nofun⟩,
    fun _ inYears => ⟨CiWorkflow.keeps inYears, nofun⟩,
    fun row _ => ⟨CiPipeline.keeps row, nofun⟩,
    fun row _ => ⟨ExternalCiPipeline.keeps row, nofun⟩,
    fun row _ => ⟨CdPipeline.keeps row, nofun⟩,
    fun row _ => ⟨Application.keeps row, nofun⟩,
    fun row _ => ⟨Environment.keeps row, nofun⟩,
    fun row _ => ⟨DownstreamTarget.keeps row, nofun⟩,
    fun _ inYears => ⟨CdWorkflowRunner.keeps (inYears _ List.mem_cons_self), nofun⟩,
    fun row _ => ⟨User.keeps row, nofun⟩,
    fun row _ => ⟨ChartRepo.keeps row, nofun⟩,
    fun _ _ => ⟨ChartRef.keeps fun held => held _ List.mem_cons_self, nofun⟩,
    fun _ inYears => ⟨NewChart.keeps inYears id, nofun⟩,
    fun _ inYears => ⟨Chart.keeps inYears id, nofun⟩,
    fun _ inYears => ⟨NewEnvOverride.keeps inYears fun held => held _ List.mem_cons_self, nofun⟩,
    fun _ inYears => ⟨EnvOverride.keeps inYears fun held => held _ List.mem_cons_self, nofun⟩,
    fun _ inYears => ⟨AppLevelMetrics.keeps inYears, nofun⟩,
    fun _ inYears => ⟨EnvLevelMetrics.keeps inYears, nofun⟩,
    fun _ inYears => ⟨NewHistory.keeps inYears fun held => held _ List.mem_cons_self, nofun⟩,
    fun _ inYears => ⟨History.keeps inYears fun held => held _ List.mem_cons_self, nofun⟩⟩

theorem materials_faithful : ∀ format ∈ materials, format.Faithful := by
  simp only [materials, List.forall_mem_cons, List.not_mem_nil, false_implies, implies_true, and_true]
  exact ⟨fun row _ => ⟨RepoConfiguration.keeps row, fun _ some => Option.some.inj some ▸ row.forgives⟩,
    fun row _ => ⟨Material.keeps row, fun _ some => Option.some.inj some ▸ row.forgives⟩,
    fun row _ => ⟨Modification.keeps row, fun _ some => Option.some.inj some ▸ row.forgives⟩,
    fun row _ => ⟨MaterialInfo.keeps row, fun _ some => Option.some.inj some ▸ row.forgives⟩⟩

theorem requests_faithful : ∀ format ∈ requests, format.Faithful := by
  simp only [requests, List.forall_mem_cons, List.not_mem_nil, false_implies, implies_true, and_true]
  exact ⟨fun row _ => ⟨BuildEventRequest.keeps row, nofun⟩,
    fun _ _ => ⟨TemplateRequest.keeps fun held => held _ List.mem_cons_self, nofun⟩⟩

end Format

/-- A row or request with timestamps of the years 0 to 9999 is read again from the value that is written of it, and from
the text of that value if text can say the JSON values within the row and they hold no floating-point number. The
materials of a build are read also where members with the default of their field are left out, at any depth. -/
theorem decode_encode {format : Format} (known : format ∈ Format.rows ++ Format.materials ++ Format.requests)
    (row : format.Row) (inYears : ∀ moment ∈ format.moments row, moment.FourDigitYear) :
    format.codec.decode (format.codec.encode row) = .ok row ∧
      ((∀ value ∈ format.embedded row, value.Readable (Json.depthLimit - 1) ∧ value.FloatFree) →
        (Json.parse (format.codec.encode row).compact >>= format.codec.decode) = .ok row) ∧
      ∀ schema ∈ format.schema, ∀ short, schema.Abridges (format.codec.encode row) short →
        format.codec.decode short = .ok row := by
  have faithful : format.Faithful := by
    rcases List.mem_append.mp known with built | request
    · rcases List.mem_append.mp built with stored | material
      · exact Format.rows_faithful format stored
      · exact Format.materials_faithful format material
    · exact Format.requests_faithful format request
  obtain ⟨kept, forgives⟩ := faithful row inYears
  have parsed : (∀ value ∈ format.embedded row, value.Readable (Json.depthLimit - 1) ∧ value.FloatFree) →
      (Json.parse (format.codec.encode row).compact >>= format.codec.decode) = .ok row := by
    intro said
    rw [Json.parse_compact (kept.readable said) (kept.floatFree said)]
    exact kept.reads
  exact ⟨kept.reads, parsed, forgives⟩

def sampleRun : CiWorkflow where
  id := ⟨7⟩
  name := "build \"main\""
  status := .failed
  message := ""
  startedOn := ⟨1483228799, 1500000000, .inr (by decide)⟩
  finishedOn := some ⟨-62167219200, 7, .inl (by decide)⟩
  ciPipelineId := ⟨-1⟩
  gitTriggers := Table.ofList [
    (-2, { commit := "b", date := some (.ofSeconds 253402300799) }), (-1, { changes := ["c"] })]
  triggeredBy := ⟨1⟩

def sampleInfo : MaterialInfo :=
  { material := { pluginId := "git", scmConfiguration := { url := "u" } }, modifications := [{ revision := "abc" }] }

def sampleShort : Json :=
  .object [
    ("material", .object [("git-configuration", .object []), ("plugin-id", .string "git"),
      ("scm-configuration", .object [("url", .string "u")])]),
    ("modifications", .array [.object [("revision", .string "abc")]])]

theorem sample_short_abridges :
    MaterialInfo.schema.Abridges (MaterialInfo.codec.encode sampleInfo) sampleShort := by
  have written : MaterialInfo.codec.encode sampleInfo = .object [
      ("changed", .bool false),
      ("material", .object [("git-configuration", .object [("url", .string "")]), ("plugin-id", .string "git"),
        ("scm-configuration", .object [("url", .string "u")]), ("type", .string "")]),
      ("modifications", .array [.object [("author", .string ""), ("branch", .string ""), ("message", .string ""),
        ("modified-time", .string ""), ("revision", .string "abc")]])] := by decide
  rw [written]
  simp [sampleShort, MaterialInfo.schema, Material.schema, RepoConfiguration.schema, Modification.schema,
    Json.Schema.Abridges, Json.Schema.AbridgesFields, Json.Schema.blank, Entries.find?, Entries.Sorted]
  decide

theorem sample_rows_decoded :
    CiWorkflow.codec.decode (CiWorkflow.codec.encode sampleRun) = .ok sampleRun ∧
      MaterialInfo.codec.decode sampleShort = .ok sampleInfo := by
  have run : Format.mk CiWorkflow CiWorkflow.codec CiWorkflow.moments (fun _ => []) none ∈
      Format.rows ++ Format.materials ++ Format.requests := List.mem_of_getElem? (i := 4) rfl
  have info : Format.mk MaterialInfo MaterialInfo.codec (fun _ => []) (fun _ => []) MaterialInfo.schema ∈
      Format.rows ++ Format.materials ++ Format.requests := List.mem_of_getElem? (i := 26) rfl
  exact ⟨(decode_encode run sampleRun (by decide)).1,
    (decode_encode info sampleInfo nofun).2.2 MaterialInfo.schema rfl sampleShort sample_short_abridges⟩

end Delivery
