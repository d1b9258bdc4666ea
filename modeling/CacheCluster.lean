import CacheCluster.Engine.InProcess
import CacheCluster.Engine.Network
import CacheCluster.FileTree
import CacheCluster.Main
import CacheCluster.Task
import CacheCluster.Proofs.Region.Chain
import CacheCluster.Proofs.Region.History
import CacheCluster.Proofs.Region.Independent
import CacheCluster.Proofs.Region.Reachable
import CacheCluster.Proofs.Engine.Agreement
import CacheCluster.Proofs.Engine.Delivery
import CacheCluster.Proofs.Engine.FanOut
import CacheCluster.Proofs.Engine.Interleaving
import CacheCluster.Proofs.Engine.Outcome
import CacheCluster.Proofs.Engine.Refinement
import CacheCluster.Proofs.Locator.Answer
import CacheCluster.Proofs.Locator.ShortName
import CacheCluster.Proofs.Locator.Stored
import CacheCluster.Proofs.Locator.Submission
import CacheCluster.Proofs.Member.Retry
import CacheCluster.Proofs.Member.Spelling
import CacheCluster.Proofs.Node.BaseUrl
import CacheCluster.Proofs.Node.Regions
import CacheCluster.Proofs.Node.View
import CacheCluster.Proofs.Report.Merge
