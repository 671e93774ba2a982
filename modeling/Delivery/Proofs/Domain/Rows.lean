import Delivery.Proofs.Json.Abridged
import Delivery.Domain.Build
import Delivery.Domain.Deployment
import Delivery.Domain.History
import Delivery.Provenance.Material
set_option autoImplicit false

namespace Delivery

open Codec

section Parts

variable {given : Prop} {depth : Nat}

theorem Id.keeps {kind : EntityKind} (id : Id kind) : Id.codec.Keeps given depth id :=
  via_keeps (int64_keeps id.raw) rfl

theorem Id.option_keeps {kind : EntityKind} (id : Option (Id kind)) : Id.codec.option.Keeps given depth id :=
  Codec.option_keeps (fun _ _ => nofun) fun present _ => present.keeps

theorem text_option_keeps (text : Option String) : Codec.string.option.Keeps given depth text :=
  Codec.option_keeps (fun _ _ => nofun) fun present _ => string_keeps present

theorem moment_option_keeps {moment : Option Instant} (inYears : ∀ present ∈ moment, present.FourDigitYear) :
    Codec.instant.option.Keeps given depth moment :=
  Codec.option_keeps (fun _ _ => nofun) fun present some => instant_keeps (inYears present some)

theorem DataSource.keeps (source : DataSource) : DataSource.codec.Keeps given depth source :=
  variant_keeps (by decide) (by cases source <;> decide)

theorem WorkflowStatus.keeps (status : WorkflowStatus) : WorkflowStatus.codec.Keeps given depth status :=
  variant_keeps (by decide) (by cases status <;> decide)

theorem CdStage.keeps (stage : CdStage) : CdStage.codec.Keeps given depth stage :=
  variant_keeps (by decide) (by cases stage <;> decide)

theorem ChartVersion.keeps (version : ChartVersion) : ChartVersion.codec.Keeps given (depth + 1) version :=
  record_keeps (by decide) <|
    (Fields.Keep.start version ChartVersion.mk)
      |>.fieldOr (uint32_keeps _)
      |>.fieldOr (uint32_keeps _)
      |>.fieldOr (uint32_keeps _)

def AuditLog.moments (audit : AuditLog) : List Instant := [audit.createdOn, audit.updatedOn]

theorem AuditLog.keeps {audit : AuditLog} (inYears : ∀ moment ∈ audit.moments, moment.FourDigitYear) :
    AuditLog.codec.Keeps given (depth + 1) audit :=
  record_keeps (by decide) <|
    (Fields.Keep.start audit AuditLog.mk)
      |>.fieldOr (instant_keeps (inYears _ (by simp [moments])))
      |>.fieldOr (Id.keeps _)
      |>.fieldOr (instant_keeps (inYears _ (by simp [moments])))
      |>.fieldOr (Id.keeps _)

end Parts

section Builds

variable {given : Prop} {depth : Nat}

theorem NewArtifact.fields_keep {artifact : NewArtifact}
    (inYears : ∀ moment ∈ artifact.audit.moments, moment.FourDigitYear) :
    NewArtifact.fields.Keep given (depth + 1) artifact artifact :=
  (Fields.Keep.start artifact NewArtifact.mk)
    |>.fieldOr (Id.option_keeps _)
    |>.fieldOr (Id.option_keeps _)
    |>.fieldOr (string_keeps _)
    |>.fieldOr (string_keeps _)
    |>.fieldOr (string_keeps _)
    |>.fieldOr (DataSource.keeps _)
    |>.fieldOr (Id.option_keeps _)
    |>.fieldOr (Id.option_keeps _)
    |>.fieldOr (bool_keeps _)
    |>.fieldOr (bool_keeps _)
    |>.fieldOr (bool_keeps _)
    |>.fieldOr (AuditLog.keeps inYears)

theorem NewArtifact.keeps {artifact : NewArtifact}
    (inYears : ∀ moment ∈ artifact.audit.moments, moment.FourDigitYear) :
    NewArtifact.codec.Keeps given (depth + 2) artifact :=
  record_keeps (by decide) (fields_keep inYears)

theorem Artifact.keeps {artifact : Artifact} (inYears : ∀ moment ∈ artifact.audit.moments, moment.FourDigitYear) :
    Artifact.codec.Keeps given (depth + 2) artifact :=
  record_keeps (by decide) <|
    (Fields.Keep.start artifact fun id (artifact : NewArtifact) => artifact.stored id)
      |>.fieldOr (Id.keeps _)
      |>.flatten (NewArtifact.fields_keep inYears)

theorem GitCommit.keeps {commit : GitCommit} (inYears : ∀ moment ∈ commit.date, moment.FourDigitYear) :
    GitCommit.codec.Keeps given (depth + 2) commit :=
  record_keeps (by decide) <|
    (Fields.Keep.start commit GitCommit.mk)
      |>.fieldOr (string_keeps _)
      |>.fieldOr (string_keeps _)
      |>.fieldOr (string_keeps _)
      |>.fieldOr (moment_option_keeps inYears)
      |>.fieldOr (list_keeps fun text _ => string_keeps text)

def CiWorkflow.moments (workflow : CiWorkflow) : List Instant :=
  workflow.startedOn :: workflow.finishedOn.toList ++ workflow.gitTriggers.rows.flatMap (·.date.toList)

theorem CiWorkflow.keeps {workflow : CiWorkflow} (inYears : ∀ moment ∈ workflow.moments, moment.FourDigitYear) :
    CiWorkflow.codec.Keeps given (depth + 4) workflow := by
  have finished : ∀ moment ∈ workflow.finishedOn, moment.FourDigitYear := fun moment some =>
    inYears moment (by simp [moments, Option.mem_def.mp some])
  have commits : ∀ entry ∈ workflow.gitTriggers.entries, ∀ moment ∈ entry.2.date, moment.FourDigitYear := by
    intro entry member moment some
    have row : entry.2 ∈ workflow.gitTriggers.rows := List.mem_map.mpr ⟨entry, member, rfl⟩
    have listed : moment ∈ workflow.gitTriggers.rows.flatMap (·.date.toList) :=
      List.mem_flatMap.mpr ⟨entry.2, row, Option.mem_toList.mpr some⟩
    exact inYears moment (List.mem_append_right _ listed)
  have triggers : GitCommit.codec.byInteger.Keeps given (depth + 3) workflow.gitTriggers :=
    table_keeps integer_key_read fun entry member => GitCommit.keeps (commits entry member)
  exact record_keeps (by decide) <|
    (Fields.Keep.start workflow CiWorkflow.mk)
      |>.fieldOr (Id.keeps _)
      |>.fieldOr (string_keeps _)
      |>.fieldOr (WorkflowStatus.keeps _)
      |>.fieldOr (string_keeps _)
      |>.fieldOr (instant_keeps (inYears _ List.mem_cons_self))
      |>.fieldOr (moment_option_keeps finished)
      |>.fieldOr (Id.keeps _)
      |>.fieldOr triggers
      |>.fieldOr (Id.keeps _)

theorem CiPipeline.keeps (pipeline : CiPipeline) : CiPipeline.codec.Keeps given (depth + 1) pipeline :=
  record_keeps (by decide) <|
    (Fields.Keep.start pipeline CiPipeline.mk)
      |>.fieldOr (Id.keeps _)
      |>.fieldOr (Id.keeps _)
      |>.fieldOr (string_keeps _)
      |>.fieldOr (Id.option_keeps _)
      |>.fieldOr (bool_keeps _)
      |>.fieldOr (bool_keeps _)

theorem ExternalCiPipeline.keeps (pipeline : ExternalCiPipeline) :
    ExternalCiPipeline.codec.Keeps given (depth + 1) pipeline :=
  record_keeps (by decide) <|
    (Fields.Keep.start pipeline ExternalCiPipeline.mk)
      |>.fieldOr (Id.keeps _)
      |>.fieldOr (Id.keeps _)
      |>.fieldOr (string_keeps _)
      |>.fieldOr (bool_keeps _)

theorem BuildEventRequest.keeps (request : BuildEventRequest) :
    BuildEventRequest.codec.Keeps given (depth + 1) request :=
  record_keeps (by decide) <|
    (Fields.Keep.start request BuildEventRequest.mk)
      |>.fieldOr (string_keeps _)
      |>.fieldOr (string_keeps _)
      |>.fieldOr (text_option_keeps _)
      |>.fieldOr (text_option_keeps _)
      |>.fieldOr (text_option_keeps _)
      |>.fieldOr (Id.option_keeps _)
      |>.fieldOr (Id.keeps _)
      |>.fieldOr (bool_keeps _)
      |>.fieldOr (text_option_keeps _)

end Builds

section Deployments

variable {given : Prop} {depth : Nat}

theorem CdPipeline.keeps (pipeline : CdPipeline) : CdPipeline.codec.Keeps given (depth + 1) pipeline :=
  record_keeps (by decide) <|
    (Fields.Keep.start pipeline CdPipeline.mk)
      |>.fieldOr (Id.keeps _)
      |>.fieldOr (Id.keeps _)
      |>.fieldOr (Id.keeps _)
      |>.fieldOr (string_keeps _)
      |>.fieldOr (Id.option_keeps _)
      |>.fieldOr (Id.option_keeps _)
      |>.fieldOr (bool_keeps _)

theorem Application.keeps (app : Application) : Application.codec.Keeps given (depth + 1) app :=
  record_keeps (by decide) <|
    (Fields.Keep.start app Application.mk)
      |>.fieldOr (Id.keeps _)
      |>.fieldOr (string_keeps _)
      |>.fieldOr (string_keeps _)

theorem Environment.keeps (env : Environment) : Environment.codec.Keeps given (depth + 1) env :=
  record_keeps (by decide) <|
    (Fields.Keep.start env Environment.mk)
      |>.fieldOr (Id.keeps _)
      |>.fieldOr (string_keeps _)
      |>.fieldOr (string_keeps _)

theorem DownstreamTarget.keeps (target : DownstreamTarget) : DownstreamTarget.codec.Keeps given (depth + 1) target :=
  record_keeps (by decide) <|
    (Fields.Keep.start target DownstreamTarget.mk)
      |>.fieldOr (Id.keeps _)
      |>.fieldOr (string_keeps _)
      |>.fieldOr (string_keeps _)

theorem CdWorkflowRunner.keeps {runner : CdWorkflowRunner} (inYears : runner.startedOn.FourDigitYear) :
    CdWorkflowRunner.codec.Keeps given (depth + 1) runner :=
  record_keeps (by decide) <|
    (Fields.Keep.start runner CdWorkflowRunner.mk)
      |>.fieldOr (Id.keeps _)
      |>.fieldOr (Id.keeps _)
      |>.fieldOr (CdStage.keeps _)
      |>.fieldOr (WorkflowStatus.keeps _)
      |>.fieldOr (instant_keeps inYears)
      |>.fieldOr (Id.keeps _)
      |>.fieldOr (Id.keeps _)

theorem User.keeps (user : User) : User.codec.Keeps given (depth + 1) user :=
  record_keeps (by decide) <|
    (Fields.Keep.start user User.mk)
      |>.fieldOr (Id.keeps _)
      |>.fieldOr (string_keeps _)

end Deployments

section Charts

variable {given : Prop} {depth : Nat}

theorem ChartRepo.keeps (repo : ChartRepo) : ChartRepo.codec.Keeps given (depth + 1) repo :=
  record_keeps (by decide) <|
    (Fields.Keep.start repo ChartRepo.mk)
      |>.fieldOr (Id.keeps _)
      |>.fieldOr (string_keeps _)

theorem ChartRef.keeps {ref : ChartRef}
    (said : given → ref.defaultValues.Readable (depth + 1) ∧ ref.defaultValues.FloatFree) :
    ChartRef.codec.Keeps given (depth + 2) ref :=
  record_keeps (by decide) <|
    (Fields.Keep.start ref ChartRef.mk)
      |>.fieldOr (Id.keeps _)
      |>.fieldOr (string_keeps _)
      |>.fieldOr (ChartVersion.keeps _)
      |>.fieldOr (string_keeps _)
      |>.fieldOr (json_keeps said)
      |>.fieldOr (string_keeps _)
      |>.fieldOr (bool_keeps _)
      |>.fieldOr (bool_keeps _)

theorem NewChart.keeps {chart : NewChart} (inYears : ∀ moment ∈ chart.audit.moments, moment.FourDigitYear)
    (said : given → ∀ value ∈ [chart.values, chart.globalOverride], value.Readable (depth + 1) ∧ value.FloatFree) :
    NewChart.codec.Keeps given (depth + 2) chart :=
  record_keeps (by decide) <|
    (Fields.Keep.start chart NewChart.mk)
      |>.fieldOr (Id.keeps _)
      |>.fieldOr (Id.keeps _)
      |>.fieldOr (string_keeps _)
      |>.fieldOr (string_keeps _)
      |>.fieldOr (Id.keeps _)
      |>.fieldOr (string_keeps _)
      |>.fieldOr (json_keeps fun held => said held _ (by simp))
      |>.fieldOr (json_keeps fun held => said held _ (by simp))
      |>.fieldOr (string_keeps _)
      |>.fieldOr (ChartVersion.keeps _)
      |>.fieldOr (AuditLog.keeps inYears)

theorem Chart.keeps {chart : Chart} (inYears : ∀ moment ∈ chart.audit.moments, moment.FourDigitYear)
    (said : given → ∀ value ∈ [chart.values, chart.globalOverride], value.Readable (depth + 1) ∧ value.FloatFree) :
    Chart.codec.Keeps given (depth + 2) chart :=
  record_keeps (by decide) <|
    (Fields.Keep.start chart Chart.make)
      |>.fieldOr (Id.keeps _)
      |>.fieldOr (Id.keeps _)
      |>.fieldOr (Id.keeps _)
      |>.fieldOr (string_keeps _)
      |>.fieldOr (string_keeps _)
      |>.fieldOr (Id.keeps _)
      |>.fieldOr (string_keeps _)
      |>.fieldOr (json_keeps fun held => said held _ (by simp))
      |>.fieldOr (json_keeps fun held => said held _ (by simp))
      |>.fieldOr (string_keeps _)
      |>.fieldOr (ChartVersion.keeps _)
      |>.fieldOr (bool_keeps _)
      |>.fieldOr (bool_keeps _)
      |>.fieldOr (AuditLog.keeps inYears)

theorem NewEnvOverride.keeps {row : NewEnvOverride} (inYears : ∀ moment ∈ row.audit.moments, moment.FourDigitYear)
    (said : given → row.values.Readable (depth + 1) ∧ row.values.FloatFree) :
    NewEnvOverride.codec.Keeps given (depth + 2) row :=
  record_keeps (by decide) <|
    (Fields.Keep.start row NewEnvOverride.mk)
      |>.fieldOr (Id.keeps _)
      |>.fieldOr (Id.keeps _)
      |>.fieldOr (json_keeps said)
      |>.fieldOr (bool_keeps _)
      |>.fieldOr (bool_keeps _)
      |>.fieldOr (AuditLog.keeps inYears)

theorem EnvOverride.keeps {row : EnvOverride} (inYears : ∀ moment ∈ row.audit.moments, moment.FourDigitYear)
    (said : given → row.values.Readable (depth + 1) ∧ row.values.FloatFree) :
    EnvOverride.codec.Keeps given (depth + 2) row :=
  record_keeps (by decide) <|
    (Fields.Keep.start row EnvOverride.make)
      |>.fieldOr (Id.keeps _)
      |>.fieldOr (Id.keeps _)
      |>.fieldOr (Id.keeps _)
      |>.fieldOr (json_keeps said)
      |>.fieldOr (bool_keeps _)
      |>.fieldOr (bool_keeps _)
      |>.fieldOr (bool_keeps _)
      |>.fieldOr (bool_keeps _)
      |>.fieldOr (AuditLog.keeps inYears)

theorem AppLevelMetrics.keeps {row : AppLevelMetrics} (inYears : ∀ moment ∈ row.audit.moments, moment.FourDigitYear) :
    AppLevelMetrics.codec.Keeps given (depth + 2) row :=
  record_keeps (by decide) <|
    (Fields.Keep.start row AppLevelMetrics.mk)
      |>.fieldOr (Id.keeps _)
      |>.fieldOr (bool_keeps _)
      |>.fieldOr (AuditLog.keeps inYears)

theorem EnvLevelMetrics.keeps {row : EnvLevelMetrics} (inYears : ∀ moment ∈ row.audit.moments, moment.FourDigitYear) :
    EnvLevelMetrics.codec.Keeps given (depth + 2) row :=
  record_keeps (by decide) <|
    (Fields.Keep.start row EnvLevelMetrics.mk)
      |>.fieldOr (Id.keeps _)
      |>.fieldOr (Id.keeps _)
      |>.fieldOr (bool_keeps _)
      |>.fieldOr (AuditLog.keeps inYears)

theorem TemplateRequest.keeps {request : TemplateRequest}
    (said : given → request.valuesOverride.Readable depth ∧ request.valuesOverride.FloatFree) :
    TemplateRequest.codec.Keeps given (depth + 1) request :=
  record_keeps (by decide) <|
    (Fields.Keep.start request TemplateRequest.mk)
      |>.fieldOr (Id.keeps _)
      |>.fieldOr (Id.keeps _)
      |>.fieldOr (json_keeps said)
      |>.fieldOr (bool_keeps _)
      |>.fieldOr (Id.keeps _)

end Charts

section Histories

variable {given : Prop} {depth : Nat}

def NewHistory.moments (row : NewHistory) : List Instant :=
  row.deployedOn.toList ++ row.audit.moments

theorem NewHistory.fields_keep {row : NewHistory} (inYears : ∀ moment ∈ row.moments, moment.FourDigitYear)
    (said : given → row.template.Readable (depth + 1) ∧ row.template.FloatFree) :
    NewHistory.fields.Keep given (depth + 1) row row := by
  obtain ⟨deployed, audited⟩ := List.forall_mem_append.mp inYears
  have deployedOn : ∀ moment ∈ row.deployedOn, moment.FourDigitYear := fun moment some =>
    deployed moment (Option.mem_toList.mpr some)
  have snapshot : Codec.strings.Keeps given (depth + 1) row.snapshot :=
    table_keeps (fun _ => rfl) fun entry _ => string_keeps entry.2
  exact (Fields.Keep.start row NewHistory.mk)
    |>.fieldOr (Id.keeps _)
    |>.fieldOr (Id.option_keeps _)
    |>.fieldOr (Id.option_keeps _)
    |>.fieldOr (json_keeps said)
    |>.fieldOr (string_keeps _)
    |>.fieldOr (string_keeps _)
    |>.fieldOr (string_keeps _)
    |>.fieldOr (bool_keeps _)
    |>.fieldOr (bool_keeps _)
    |>.fieldOr (moment_option_keeps deployedOn)
    |>.fieldOr (Id.option_keeps _)
    |>.fieldOr snapshot
    |>.fieldOr (AuditLog.keeps audited)

theorem NewHistory.keeps {row : NewHistory} (inYears : ∀ moment ∈ row.moments, moment.FourDigitYear)
    (said : given → row.template.Readable (depth + 1) ∧ row.template.FloatFree) :
    NewHistory.codec.Keeps given (depth + 2) row :=
  record_keeps (by decide) (fields_keep inYears said)

theorem History.keeps {row : History} (inYears : ∀ moment ∈ row.moments, moment.FourDigitYear)
    (said : given → row.template.Readable (depth + 1) ∧ row.template.FloatFree) :
    History.codec.Keeps given (depth + 2) row :=
  record_keeps (by decide) <|
    (Fields.Keep.start row fun id (row : NewHistory) => row.stored id)
      |>.fieldOr (Id.keeps _)
      |>.flatten (NewHistory.fields_keep inYears said)

end Histories

section Materials

variable {given : Prop} {depth : Nat}

theorem RepoConfiguration.keeps (repo : RepoConfiguration) : RepoConfiguration.codec.Keeps given (depth + 1) repo :=
  record_keeps (by decide) <|
    (Fields.Keep.start repo RepoConfiguration.mk)
      |>.fieldOr (string_keeps _)

theorem RepoConfiguration.lawful : RepoConfiguration.codec.Lawful := fun repo =>
  (repo.keeps : RepoConfiguration.codec.Keeps True 1 repo).reads

theorem RepoConfiguration.forgives (repo : RepoConfiguration) :
    RepoConfiguration.codec.Forgives RepoConfiguration.schema repo :=
  record_forgives (by decide) rfl <|
    (Fields.Forgive.start repo RepoConfiguration.mk)
      |>.defaulted (string_forgives _) string_lawful rfl

theorem Material.keeps (material : Material) : Material.codec.Keeps given (depth + 2) material :=
  record_keeps (by decide) <|
    (Fields.Keep.start material Material.mk)
      |>.fieldOr (string_keeps _)
      |>.fieldOr (RepoConfiguration.keeps _)
      |>.fieldOr (RepoConfiguration.keeps _)
      |>.fieldOr (string_keeps _)

theorem Material.lawful : Material.codec.Lawful := fun material =>
  (material.keeps : Material.codec.Keeps True 2 material).reads

theorem Material.forgives (material : Material) : Material.codec.Forgives Material.schema material :=
  record_forgives (by decide) rfl <|
    (Fields.Forgive.start material Material.mk)
      |>.defaulted (string_forgives _) string_lawful rfl
      |>.defaulted (RepoConfiguration.forgives _) RepoConfiguration.lawful rfl
      |>.defaulted (RepoConfiguration.forgives _) RepoConfiguration.lawful rfl
      |>.defaulted (string_forgives _) string_lawful rfl

theorem Modification.keeps (modification : Modification) : Modification.codec.Keeps given (depth + 1) modification :=
  record_keeps (by decide) <|
    (Fields.Keep.start modification Modification.mk)
      |>.fieldOr (string_keeps _)
      |>.fieldOr (string_keeps _)
      |>.fieldOr (string_keeps _)
      |>.fieldOr (string_keeps _)
      |>.fieldOr (string_keeps _)

theorem Modification.lawful : Modification.codec.Lawful := fun modification =>
  (modification.keeps : Modification.codec.Keeps True 1 modification).reads

theorem Modification.forgives (modification : Modification) :
    Modification.codec.Forgives Modification.schema modification :=
  record_forgives (by decide) rfl <|
    (Fields.Forgive.start modification Modification.mk)
      |>.defaulted (string_forgives _) string_lawful rfl
      |>.defaulted (string_forgives _) string_lawful rfl
      |>.defaulted (string_forgives _) string_lawful rfl
      |>.defaulted (string_forgives _) string_lawful rfl
      |>.defaulted (string_forgives _) string_lawful rfl

theorem MaterialInfo.keeps (info : MaterialInfo) : MaterialInfo.codec.Keeps given (depth + 3) info :=
  record_keeps (by decide) <|
    (Fields.Keep.start info MaterialInfo.mk)
      |>.fieldOr (Material.keeps _)
      |>.fieldOr (bool_keeps _)
      |>.fieldOr (list_keeps fun modification _ => modification.keeps)

theorem MaterialInfo.forgives (info : MaterialInfo) : MaterialInfo.codec.Forgives MaterialInfo.schema info :=
  record_forgives (by decide) rfl <|
    (Fields.Forgive.start info MaterialInfo.mk)
      |>.defaulted (Material.forgives _) Material.lawful rfl
      |>.defaulted (bool_forgives _) bool_lawful rfl
      |>.defaulted (list_forgives fun modification _ => modification.forgives) (list_lawful Modification.lawful) rfl

end Materials

end Delivery
