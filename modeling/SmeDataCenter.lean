import SmeDataCenter.AuthorizedScopeCorrect
import SmeDataCenter.RunReach
import SmeDataCenter.AttemptBound
import SmeDataCenter.DownloadQuotas
import SmeDataCenter.CursorPaging
import SmeDataCenter.PasswordSetup
import SmeDataCenter.PasswordReset
import SmeDataCenter.MigrationLedger
import SmeDataCenter.Administrators
import SmeDataCenter.FinishedRuns
import SmeDataCenter.LauncherSignOut
import SmeDataCenter.WindowReleases
import SmeDataCenter.ReconciliationAccounting
import SmeDataCenter.RefreshEnumeration
import SmeDataCenter.UploadsInStep
import SmeDataCenter.ProfileAgreement
import SmeDataCenter.HeadingPaths
import SmeDataCenter.ActionAvailability
import SmeDataCenter.ManifestAgreement
import SmeDataCenter.PreviewRuns
import SmeDataCenter.SourceTuples
import SmeDataCenter.ExactNumerals
import SmeDataCenter.TextFilters
import SmeDataCenter.WorkflowCanonicalTexts
import SmeDataCenter.SignedCursors
import SmeDataCenter.CostCardChanges
import SmeDataCenter.SourceScopes
import SmeDataCenter.SourceDownloads
import SmeDataCenter.PartitionExtracts
import SmeDataCenter.PartitionUploads
import SmeDataCenter.LedgerObjectKeys
import SmeDataCenter.UploadRetries
import SmeDataCenter.ScheduledWindows
import SmeDataCenter.HeaderResolution
import SmeDataCenter.RepeatedReviews
import SmeDataCenter.EvidencePruning
import SmeDataCenter.CooldownHistories
import SmeDataCenter.ConcurrentMaps
import SmeDataCenter.CutoverInspection
import SmeDataCenter.LedgerPrinting
