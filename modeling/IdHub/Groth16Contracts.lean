import IdHub.Groth16Acceptance

/-!
# The keys of the nine verifiers

The contracts and their keys, as the generators wrote them.  Every point of the first group
in a key is a point of the curve other than the neutral one, and a key has no point twice.
So no contract fails for its key, and every public input of a contract is bound: an accepted
proof is accepted neither after one input is changed nor after two are exchanged.
-/

namespace IdHub

namespace Groth16Verifier

/-- `antiSybil.verifier.sol`. -/
def antiSybil : Contract where
  generator := .zoKrates
  inputs := 5
  verifyingKey :=
    { alpha := ⟨0x07cf3ea35ce89bd47ae7884ed63e681cdd2bcc9b1522c8513995b2efe1424bbc,
        0x0175240658c74aefc5d7e5f9298254ac527b06a541c5745375d8be7f6618f80a⟩
      beta := ⟨(0x05b2d5f21d70e3e463cf78c09b6791c65b5a4e220a8e9f598a1eb07db21455fa,
          0x2f9e034fc8cd01282b990581a71b3c539a9e8b7670c9c4a7def9ed865c3254be),
        (0x0049736bfe2b83a68f14c7ac8df40ed448eb85344f2116539497062b9628a014,
          0x1e49966ae8c5ad615d4f804a1a0733a0f9e0ec802e1102297d1aa89e545cc8b5)⟩
      gamma := ⟨(0x09b8b9280d1a535c41cd655d52beb176de2c75c7eaa27f683edc5c3b23fd4d23,
          0x2483cc62f2f655231a041c2efe3c0acf8ec228c662367e7643dde9486566083e),
        (0x2acd04fbd40b56b330ae9b7fae61de45078063eef9dc2efa85ac07670c9a8710,
          0x289242c611532eb565c01dda2af7fdace4e181b429b1c522f09e2c45a41ec986)⟩
      delta := ⟨(0x1fb55ccd4e42f62ea22ec3f2343c6963503de5d52a5886e2de5600bdd6045edf,
          0x1a62735f741101477afc183dd602246d45a685556369fa8a3b59e23b3d6bb9b3),
        (0x2d72c8f7af207f2456102b5714d78986ed97f6a1859ff03b808cd1bbafa0ff7d,
          0x1a4dacd7a48f92c49b9a0c1e764a70b254ce3f61b2fa138e095237293ce7c3b5)⟩
      gamma_abc := [
        ⟨0x2fbf2edc978f739425e24af07b701b0252aa5ed5fe6d0c1fa93f4e4e762b2043,
          0x234cf92ca5acb62d3ca271ef6aa2ca4bb011886016a4fbb38bd78bfd3a3b05ee⟩,
        ⟨0x1cdeace3919620bbdf2c821ff7a5067d36ec9b3e3b291c5871447e675f72dd88,
          0x255816c023276c902fb1b59789fc4ff19b23cf0e63cdc34fbd9202e5947a5020⟩,
        ⟨0x18e3ec6edb610ebaaec15f751bf8173d6336d2c5b09b288b9c8a9d4787983935,
          0x272e548acd302e7fbda87612c1d68d737f1d816586e2a236b71e80cdd4cc3e07⟩,
        ⟨0x2998028f89a5496e4adb5332b22a054b9c843c4f54dcdca0951444157f0c8db0,
          0x11faaa550f3ab63790adb6594e6bd9017e8253e416a4380ab7b8565acfcb82db⟩,
        ⟨0x09a638226cfc46ac9661a3b62870302d3ff62a958ae2b5d141cba275a59932f3,
          0x0d46745c05f8ece61658144223e895c54f087cad3923b5e7e3cf44353ab35046⟩,
        ⟨0x26b78e89f8c6fad685ff502edc6d501adf0fff4ca04439412ca7c40a71543df8,
          0x0eca22c5c5523eb363bb9df6a48421816aec29029d3d88ce2f4eeb595bf58870⟩] }

/-- `createLeaf.verifier.sol`. -/
def createLeaf : Contract where
  generator := .zoKrates
  inputs := 2
  verifyingKey :=
    { alpha := ⟨0x261ea67a07be7ce008946ba9bf5802d0975446a418ea828feb57bc743f486e99,
        0x0aa68a328cb346c79e167e87e45533220f95b799192ffa7643f922631b14c1d6⟩
      beta := ⟨(0x08d9d26ed30f869b93de2ec20836eb18ff46593d5ced607eddc7f98549b97ff4,
          0x2fd101929e87fbb4edac2c1ecba14f66bd0b4c833911b8963c45302ebb3a138e),
        (0x13ca95dd6cb42a48aa0cbffd907f780704d47a85584107cf54809744bc4f24ea,
          0x270898278637d595f92842d8a2ea350e134ba146c4e3a05704659e46c20557ce)⟩
      gamma := ⟨(0x2ea0c725571ca7ff98018f4d0a5a6747b85a442fad770b36ad7d4645653387d7,
          0x28d23124b227007623142892d0dc0e2aed5d682559e490160f002945e6539ac9),
        (0x0f42dde77fd976878ed731221de03eba50b557ae9b3d2bad273efcd66e30a584,
          0x153ff4aec1f59fbc1d76b011596e59cced3f3d4f238f63b1c758acfaf6be7084)⟩
      delta := ⟨(0x043f3531e780ff4f98d90d2ac77b1e6a536a708cb6939711a113d5d8130b846d,
          0x0162a811f8aeaf6ab8b92e364e477b4c7e06eb9eabdd41bb4641b8c7a28f6d3f),
        (0x16748c65c797b07ff17c064267ea3902ac96beeeca453988bb6643bc279612a8,
          0x1843f69dd81b1e2ad275d2f4a3f8d7f5a494ceda332ca2f1cf81837d413972aa)⟩
      gamma_abc := [
        ⟨0x2eada7b0866f965f29d3f84c91ecd6969ba183d5ca5702b750142244ce54ff6e,
          0x2816bc379648d918fc82bb0d9b8a9038d466c9968bd1973ad30ad5a04332231b⟩,
        ⟨0x0e80f66d57f3f52a8e4242bcbb71200bc1d8a59c695fd2ad8d20783ba3556016,
          0x0478091c7291fc04060ff1997b53178e4933615fbf8913a9b113586d62f094ef⟩,
        ⟨0x075ad00f9d6921afc81a4fa404e4cea577db00929932ae9156ae63026424a29c,
          0x039167cdcf84864e1e4ee7c31beab123f2eb3e66fbe36b315e17f653e1ee5ef0⟩] }

/-- `onAddLeaf.verifier.sol`. -/
def onAddLeaf : Contract where
  generator := .zoKrates
  inputs := 3
  verifyingKey :=
    { alpha := ⟨0x193e22c4311c3609eb91e7138ac6d29b9dd8bd2f074f6be04fa42c02ca036053,
        0x295745b73ac6fc210aa6bc3e0b8d789b6404a259dff1ac60c722848920e5f87f⟩
      beta := ⟨(0x213d8635a997818eb1c13707bb04ccd95e69ff60c6b9ccaea869cdc71890b6c1,
          0x2719f14a0ab6d68f531559d2cd432b2e901c00ff3840764e1c552c773189677b),
        (0x0e14bc64efd9ded08e799a666e1745df6aec82d0761b22777772eb94eb221c9f,
          0x03d175bb6309fca6d740df37d61d959922ebdba6877ee305522e81b6d7ae332c)⟩
      gamma := ⟨(0x1a06e23ec4935b54c0597f3b467b0a6387a7c3b0601b6e7371438af61f7bc265,
          0x1fe80dada06db006ba66ef4db82d3ee74832414d3b53f4626a06f7f8750c15c4),
        (0x08dcab2e5abd9809c60e25037c3b916fe834388bcd5c78e3709e6aeb2e3cc57e,
          0x03e1fc33cdcf73fc1d82e36fae31748c781fa4226b30e7601a2bda0e8a56b12a)⟩
      delta := ⟨(0x1772a892dc0d131f5d709f8060c57da955692ff581ab41a36a3c0d0daf207a48,
          0x16c6fcd0a249a5dab4911e6d2d3f5c95f4a36245a6117120f631ae029c39aeb9),
        (0x0087271d18ff6303d104536f890649b4b420d49c747e192d780c66cd2c964b29,
          0x00a890a9980461c6da9125d63bc6b3c996bb6985432fb38dabb7d3ddca844be9)⟩
      gamma_abc := [
        ⟨0x0c985a310d66b2f4f974c21d8e4d2be8df76394ba894c8307c6f01ec5d9f8734,
          0x193c8d425f2fb2e4b227368edadb05f282ae2750c60e1a056dc7fdb028088b4f⟩,
        ⟨0x1197eca1c597fd28d76a01664204e6144a92366a06e5642721af18e24ad08e1e,
          0x23cc59ae89cb3c9cb359d3e7610912167dd54eba8db12de9161e1198ca298842⟩,
        ⟨0x13cdef780266d604b254108f00b50c19e0293103d68fe04dd5e76e593f1d19bf,
          0x0f0089538a39d0f144f4c8ca57c0cc3f63a4174f6f9d17d5b0ee563cf8708e33⟩,
        ⟨0x20b55fc8eb393034d47a78c00f394cf68769592e0b1343d92e5d0c64b9629902,
          0x22665571d9d730edcf00aff2ef5e39d90f67497b149e6817dc5e62f23ecd6306⟩] }

/-- `proofOfResidency.verifier.sol`. -/
def proofOfResidency : Contract where
  generator := .zoKrates
  inputs := 6
  verifyingKey :=
    { alpha := ⟨0x1dcfbcc68c706725d95cae80087f4f803f7c628fd2ebed0c8d8f1c08efb000a2,
        0x1db5c895af5af97da17f06a993745f82dc6c3f43b862de01bb499821a2f07f7f⟩
      beta := ⟨(0x14595f61ba4aede46e251c87d00e8f5ddd659e3a94f14212cabd8642e28f03b7,
          0x2ad520f86f05f729da4c87a6732a2b73b5594f54a3433ddbf9329a859717e893),
        (0x12966aef85fa2cb49ba6c72aaf3b519a909369085de41a7a10db36f6aee9a333,
          0x2b2aa977f11a4b1d2fa1b43487a3b348fb78658b4948628ae8a0c77a27309607)⟩
      gamma := ⟨(0x0e646c79b92eb81e771a8beedcf750922d68c4cae6e674f28386f05db695f087,
          0x2f32db257bd38e510b2c46905bf42ee017eb8dd3736ecf94a63ee388e9dcf7c6),
        (0x2bced1358c17d910723e709aefed3c3b9c127401fbb5b8196023af37eb6924a6,
          0x200c899f19599e02ee93c8287a7120147c6f8e001e9c7f7e5c643fce1a2aa94a)⟩
      delta := ⟨(0x1116bc1932e65897160357ba10be9222ec1e34adffa8b8c9182b60cac7752446,
          0x207f45a790597c02fd21413d5d9ed6bd4b633c18ead06295fe9a8b93562380d2),
        (0x05de54e825005fa8bf89ded4db3448d013c2faa95f3e14e4f502ebb076b6ec42,
          0x04a769b3533c1f4394d7523639a81fb549d0f086313f93b605ada17b0d7aeaf5)⟩
      gamma_abc := [
        ⟨0x0a0b29d53e75e2681c6cf103f088f351971c06a78c1af4c2c3fad558bd480aba,
          0x014db04b3e5fbbd59699890460efd29b5df2491dcade336ed9e58f1920c9b091⟩,
        ⟨0x0ab0d26e0b44acc3f6166a737f25c6b594f8ee0550b0b774a5fc1a9b1c90c2e5,
          0x2be4d4802073c03ab7a5160c0f1bfef2f1c8fb0ecfb61c2a2ddfa0f1d64b98f2⟩,
        ⟨0x08539b6e4fa48392fa14e89394f52ff8ca375c23103bfc6f78af24152666cc57,
          0x16099e7289a9f2539a9d5abe3665ffaf7236de57ccb24cdff3e4cb8047709198⟩,
        ⟨0x21e5733b57484e09646f512c1c0d95c6670d6701c7540b9487f4f08723c19bb8,
          0x11fb6e9d01ab0f58928f40f21da7beee62943aa3c2c5490100ffb6a09d8ce2e5⟩,
        ⟨0x1ea9366f1bee313ec9786dc19facf5dccf3e47e23d9477e274b377e4272bceda,
          0x13b1db8802d9fc947ad2ab6ffce35e3e9b147ce6a79760886cefb4e9e4b0212e⟩,
        ⟨0x186067a849502f2e7ce583156758d2aa6d10b98638374d897bd0ab1438f3e45d,
          0x2b777f559e2f11fe20903a6b6fe5808a73c93e278effadaad217701caae97063⟩,
        ⟨0x151caaf5340893a1c7e92b6fcaa315046b38a29e5904b7f31088994a6554cf47,
          0x04ccd8e7e9a8637873c3fc75ae69afa761886cec6e78675f391ed008c20a0083⟩] }

/-- `quinaryMerkleProof.verifier.sol`. -/
def quinaryMerkleProof : Contract where
  generator := .zoKrates
  inputs := 2
  verifyingKey :=
    { alpha := ⟨0x16cc177ccf780ed9a55fbe9b6b97d92cce57ed557ad04d0bfa5e7da586fa38cf,
        0x1a37f68b291d664cb1bf2409b20b40003bdc72cfb3bba3b467d180ebdd653eff⟩
      beta := ⟨(0x05022ffecd6893ebc202b0de9f1360f483d5bc7b6391116ef9c548821f9e72b0,
          0x153e0ddd02880f4b27a2f9715dbffd902cb34d4b77a225a942c63c031b8f5dde),
        (0x152aa557bb042003a1b3078d2591b5d4da02cce99b25ec986f9add8ba930bcb2,
          0x2b5e710aff538583cab64dbe160004b552e6b4f37911d24ad4db063b6c99f437)⟩
      gamma := ⟨(0x187478128eb6857346eb544a19b9b4cc09b96ba908ede39224cf778eeb1667d7,
          0x08d8184752ffc9952a4ed5af99f65fedb255b7e92303dd32f833fdd2ca1f2485),
        (0x2a9991df7388ebe8e12ea47ac248819a3461459388dd28b0b39f73a592ddd8f6,
          0x2aa454db3370ea4189603596958067041e3f29e7587c910007b5a19d08e64942)⟩
      delta := ⟨(0x0096ffbc8e451d21c4b210cec41258423ed84b7456b0367d2e022f3ef310f266,
          0x1c5ef64ce6c9c488dd0c35c033b4d210895c06a4799bd67fea2873db32486ae4),
        (0x25ea0a8a2803ccc7514a8a1456db1bec11cd0946af4e68bbb8ae0fe620ec4701,
          0x13913551597c343326226913a2d00e5b96a10f454e625216375b2d9ee5920bed)⟩
      gamma_abc := [
        ⟨0x2d63261fb6e9a0d3cbe1a46168778f26d9a3e0c011fe42b8ead4e7b0d70d51df,
          0x23fb61b10009704b560c49c197215721cac282426bdb1dd3de9ff99538b4ad63⟩,
        ⟨0x14ed3e92b5d27d090e132cc526e6f3cb4e225aae62c91eabcdcfdc2b4bbe56ee,
          0x0d442f9b5e4d614ae2e17d8b96a678697cab0715186737c3dedbf8b8040e6f41⟩,
        ⟨0x0c535aa4ad99d1b5450144133cb93e14e30987404dbc36fca8e79fab03be5e71,
          0x046a538db898a99bc7a3144d34110dbc322ac967ee98ad2f47b6df7efbe403fd⟩] }

/-- `sybilPhone.verifier.sol`. -/
def sybilPhone : Contract where
  generator := .zoKrates
  inputs := 5
  verifyingKey :=
    { alpha := ⟨0x23132bf6861e913de025a9e802bf928d06a10210dd607b308311dee176da1557,
        0x1005b20be8518d03236d9e31e98c62cd42f029293187ec91669fd5566edda332⟩
      beta := ⟨(0x1d902265da73829f3fcaca13a0005fad0a57ef29de813b63614c464179af7baf,
          0x21f5bf89534e5dece36e982a080ddec97f890dc6b7266f53103787ebf6b80ed9),
        (0x0400f8f69c1ff2e4de45b40051ee37b0c8378eedeeede2328e1b3ccf964ad02f,
          0x1da67b1ced07189c66ed794d1ccca073f77489381320652de01ae2bbf7513414)⟩
      gamma := ⟨(0x10074f085aaf15336e0485d1200f77efa6961d7841c96a78548bb99875f9acfb,
          0x0e5f63a506cbfd9cceb1b9c5c7076e38ce67a44c22a22a38eb2e5ba28d29227a),
        (0x200f34273a63ee976c8482f038cefabcd4393361bddc1ebfefad9ca836a152d0,
          0x22147891bfdc30967b20263f4c041d97a4a41cf2f7a613d0d58b82ab1b9cba37)⟩
      delta := ⟨(0x14667d77eb04dc1cab5964daee7f4e339ee97453bfb47ae0169641481eaaaf4f,
          0x0e3f4cc26eb6862218634cc1af9811b3bd1afdd4fddd63164a7f150ea16846e4),
        (0x0e88177b14ae1daad4fb99884b311537a6b97ba56e890fc831ef7642bb2c9e84,
          0x1e360036fcd20171bee89640078f8c0fbdbee292659ffd37684ff6ca4df98241)⟩
      gamma_abc := [
        ⟨0x0d7a890d9e0b064fd5d1792809b815059f838411ae272b8222f8d13cca6976ff,
          0x276a8b66ba880df693144b6009642580bbd03ce7f85fc7c1924c79c41c7acf2b⟩,
        ⟨0x056c2a53dedc7e25d411ea907f58b4401b38bd31f96ea056a3df8434502ba34a,
          0x22ea4453748c30e727b2903bb25b41cf0f93594383e6a6f4fc7df89a5826b6e0⟩,
        ⟨0x09c1e96a2bafcfdb4ad27a980b3e8ba153afe13af73f03813ebeb8fe2671fbda,
          0x015f604910de8ffe0cae3722c1233269a7a86dcdaae78ddfc14d09f52c0d7cff⟩,
        ⟨0x06536a384e2ca196f159b87209a79d98bf20ef80f55c0208efa2a3f178e89ca3,
          0x1868b0fa058f733664346efdf115c6ec1b8fcd2d06ce2a786ddf7ddf75de069b⟩,
        ⟨0x2d536326445a1d29cd548c415e3d43f9c36935a20b6ded8b4869aeb13a57e3da,
          0x15ea7024462cd6121752035f05032bbcec9c0dd2701bcfa5d5d5eea61895e869⟩,
        ⟨0x1e189d00ca9ba7f56154f183b3e788b386f7206d0bb58267bb2724fa156d44fa,
          0x0f2ef392435a97d43648424b4a3e088fea6ca8972b26f6776895e810ccd1f57f⟩] }

/-- `daEncrypt.verifier.sol` beside the circuit. -/
def circuitsDAEncrypt : Contract where
  generator := .snarkjs
  inputs := 7
  verifyingKey :=
    { alpha := ⟨6286017361447402670426886433977442446267081315326583908776660104342003902273,
        15851747536223529126134497349783554885843020183232349833014766490865267066159⟩
      beta := ⟨(2684862899157831898528440547379697301673177258438608995236972893495606979879,
          13884773658307592650973839254623275859853682484334811432766555969812812810713),
        (20852197633772715723548533024421878087558962286424663646946175872013952013934,
          2433610554751252508937368097682097770790977001630831531421060372870884415227)⟩
      gamma := ⟨(11559732032986387107991004021392285783925812861821192530917403151452391805634,
          10857046999023057135944570762232829481370756359578518086990519993285655852781),
        (4082367875863433681332203403145435568316851327593401208105741076214120093531,
          8495653923123431417604973247489272438418190587263600148770280649306958101930)⟩
      delta := ⟨(8026065259833026650226551023068936118270918594170687275008723426990548461674,
          14667529801839670437952569001497178232033360806470925895804469710501010392354),
        (20964599925948041722278001189920728477254795891103093684145342697650133402247,
          11655868885450756136014388499077804228283802717170042773986839362674885085175)⟩
      gamma_abc := [
        ⟨15066737874799813652372389084749173758541204634472029091689532598074568701956,
          15500550292841478476635260486990550459039295501958756192394006419850601295469⟩,
        ⟨17982698545147813083225507590902160529782769701208894629296989614977312170913,
          955199226345047401510284992932483480531494483784146723385910084986488988730⟩,
        ⟨17982144153293064344785814824008198353048175575410710087125748657857548784925,
          13518605249530315122525859666483923835768979584835028606489340760602868713702⟩,
        ⟨2051919173288250411993263017073669023743166623871844718500015316796838551025,
          1616166262703563373284164414846306256287643039082906965045506738728077317864⟩,
        ⟨18142286089160831691113237716940210977958521112491983025493866304509097001222,
          9150398240979197449951460790125832160815226533450881056824313276633012272608⟩,
        ⟨17404137316773498271168301797232703827838428196291042223983910632275375943594,
          7863376840410419991292018229746719164179371941589598825561272984602035957480⟩,
        ⟨6286480816584189356621121421242791645989830108026118719660905772949640203558,
          6335526477039210975538973159821278716460328905847002869368445123884400069866⟩,
        ⟨21816722801798962948469103511592068000081879104181259813662696219852493232161,
          12972413727436510040352939128352625399784787474966665691964632997101138530907⟩] }

/-- `daEncrypt.sol` among the verifier contracts. -/
def verifierContractsDAEncrypt : Contract where
  generator := .snarkjs
  inputs := 5
  verifyingKey :=
    { alpha := ⟨12321404275007339099236227099381654965077221450100120956670206342691397001706,
        3934068704426381986804424244686262431950857861525378672043709070119198527229⟩
      beta := ⟨(1164427931577026954404239314637123738298536800553281694402171207315067141797,
          19265107687519670517886947145399383610023565074757168132023970692901552196426),
        (17830008773394125481847195089170566983360721902370587168742830369645847559661,
          12768791316582379362370438990478058741074574696175220173021705105351887330557)⟩
      gamma := ⟨(11559732032986387107991004021392285783925812861821192530917403151452391805634,
          10857046999023057135944570762232829481370756359578518086990519993285655852781),
        (4082367875863433681332203403145435568316851327593401208105741076214120093531,
          8495653923123431417604973247489272438418190587263600148770280649306958101930)⟩
      delta := ⟨(18543094751821431213204242779010354266927907692179185677113317960596294995818,
          11606063653812795125319525390424235846001334614609545608884310464041622563907),
        (14359783378429745387276450036342683075996508508735480602677928226784628170345,
          17853365262291377956818983863177421431868740144173110492906260664225104789985)⟩
      gamma_abc := [
        ⟨12728112918034715855137677101106186725174394754835789874962475171524619184792,
          9270096804081170390454961076667783728664443728021965810859797308492416522045⟩,
        ⟨13251819138084564532564475652821448892790609802758193292093230023697333023,
          8673944508385759921993663074539174741443457620557915091338582179477575289636⟩,
        ⟨3525499695136818180322659004376505635303641282288181775626027444912986452642,
          17453313793623022424078319131102141291707888792023413329279698259410088438389⟩,
        ⟨10796157138221455064065251256287068597136002506163116392056987563407351308744,
          9413998882982331626311266920217437464558971062510055622448997851896947393528⟩,
        ⟨13260605977907888025441478201283497637318193223974446639514713709329776065090,
          12451713669992846153688047473085165894597404539968492904612137016448528720415⟩,
        ⟨16890850244144665200289968110151893778814590918824947457209643984969687100177,
          20753705761866155904617765424122044705457281140820099833524768227408653495780⟩] }

/-- `daEncrypt.verifier.sol` of the package `zk-escrow`. -/
def zkEscrowDAEncrypt : Contract where
  generator := .snarkjs
  inputs := 8
  verifyingKey :=
    { alpha := ⟨12321404275007339099236227099381654965077221450100120956670206342691397001706,
        3934068704426381986804424244686262431950857861525378672043709070119198527229⟩
      beta := ⟨(1164427931577026954404239314637123738298536800553281694402171207315067141797,
          19265107687519670517886947145399383610023565074757168132023970692901552196426),
        (17830008773394125481847195089170566983360721902370587168742830369645847559661,
          12768791316582379362370438990478058741074574696175220173021705105351887330557)⟩
      gamma := ⟨(11559732032986387107991004021392285783925812861821192530917403151452391805634,
          10857046999023057135944570762232829481370756359578518086990519993285655852781),
        (4082367875863433681332203403145435568316851327593401208105741076214120093531,
          8495653923123431417604973247489272438418190587263600148770280649306958101930)⟩
      delta := ⟨(9871470101529704136807315386668025646415351463107434682918515567007265998582,
          4035979158299933727366858824210793867583704120017246254668407426352117790075),
        (21335131605173750593828673879615866068894638965241813754365894961361050780857,
          10712013692812189271325622296095644955094989046243004942033017350238496879019)⟩
      gamma_abc := [
        ⟨3654283539163968825585103531552313455766459066510730016294932358337974564426,
          9271583318061785046576577698113927234149418525936043269204720279046570223655⟩,
        ⟨7320057806087188216247145429599416095207499536882651968030946590995717144565,
          16031358911852351763542036382695389276326505121217548775485248458924183978176⟩,
        ⟨1248060959782743251485836949342309314898851400080761039270810019297427160270,
          11552038000090840179985277027424017581658743634847821512153920330835365423706⟩,
        ⟨2350902071778135099400048598317934742803874192340705835457155163319474444327,
          19633392597427656944549959354400957143604841974225208049563414217433257386521⟩,
        ⟨10276899355621678643167810340872502805494010539753757610163174292615072818562,
          5637316248372233804708649933937073640218363406203962713031396145247829791447⟩,
        ⟨8615380587879708372966528140342775295688982103224470796915055226172777081101,
          13640932631367583589373786764819427650288179743028091626933613870651642173522⟩,
        ⟨5411678592671705753505937183097790813766957665419213139675676626182874063098,
          13215360496771054487530043031782771145995624654535875723193321847560908429363⟩,
        ⟨19290764670025134387780761725164465745678297276651093351672662101787139508324,
          19222797996337896012501837553454231076914577653137734681824097818131421628883⟩,
        ⟨15639597430830423729217700758306198957179312910062125484344228221444339038898,
          4854442781641217788833072817662438092808430758444448664821960454139421485645⟩] }

def contracts : List Contract :=
  [antiSybil, createLeaf, onAddLeaf, proofOfResidency, quinaryMerkleProof, sybilPhone,
    circuitsDAEncrypt, verifierContractsDAEncrypt, zkEscrowDAEncrypt]

/-- What can be said of a key without the second group. -/
structure VerifyingKey.Checked (vk : VerifyingKey) (inputs : ℕ) : Prop where
  decodes : ∀ p ∈ vk.alpha :: vk.gamma_abc, (G1.decode p).isSome
  nonzero : ∀ p ∈ vk.gamma_abc, p ≠ ⟨0, 0⟩
  nodup : vk.gamma_abc.Nodup
  length_eq : vk.gamma_abc.length = inputs + 1
  gamma_ne_zero : vk.gamma ≠ ⟨(0, 0), (0, 0)⟩

theorem contracts_checked {contract : Contract} (member : contract ∈ contracts) :
    contract.verifyingKey.Checked contract.inputs := by
  have checked : ∀ contract ∈ contracts,
      (∀ p ∈ contract.verifyingKey.alpha :: contract.verifyingKey.gamma_abc,
        (G1.decode p).isSome) ∧
      (∀ p ∈ contract.verifyingKey.gamma_abc, p ≠ ⟨0, 0⟩) ∧
      contract.verifyingKey.gamma_abc.Nodup ∧
      contract.verifyingKey.gamma_abc.length = contract.inputs + 1 ∧
      contract.verifyingKey.gamma ≠ ⟨(0, 0), (0, 0)⟩ := by
    decide +kernel
  obtain ⟨decodes, nonzero, nodup, length_eq, gamma_ne_zero⟩ := checked contract member
  exact ⟨decodes, nonzero, nodup, length_eq, gamma_ne_zero⟩

section Keys

variable {G2 : Type} [AddCommGroup G2] {twisted : G2Encoding G2}

/-- The points of the key in the second group are points of it. -/
structure Contract.Valid (contract : Contract) (twisted : G2Encoding G2) : Prop where
  beta : ∃ Q, contract.generator.template.words contract.verifyingKey.beta = twisted.encode Q
  gamma : ∃ Q, contract.generator.template.words contract.verifyingKey.gamma = twisted.encode Q
  delta : ∃ Q, contract.generator.template.words contract.verifyingKey.delta = twisted.encode Q

theorem exists_encode {points : List G1Point} (decodes : ∀ p ∈ points, (G1.decode p).isSome) :
    ∃ Ps : List G1, Ps.map G1.encode = points := by
  rw [← Set.mem_range, Set.range_list_map]
  intro p member
  obtain ⟨P, decoded⟩ := Option.isSome_iff_exists.mp (decodes p member)
  exact ⟨P, G1.decode_eq_some_iff.mp decoded⟩

theorem exists_ofFn {α : Type} {n : ℕ} {elements : List α} (length_eq : elements.length = n) :
    ∃ f : Fin n → α, List.ofFn f = elements := by
  subst length_eq
  exact ⟨elements.get, List.ofFn_get elements⟩

theorem words_eq_zero_iff {generator : Generator} {p : G2Point} :
    generator.template.words p = (0, 0, 0, 0) ↔ p = ⟨(0, 0), (0, 0)⟩ := by
  obtain ⟨⟨x₀, x₁⟩, y₀, y₁⟩ := p
  cases generator with
  | zoKrates => simp [Generator.template, ZoKrates.template]; tauto
  | snarkjs => simp [Generator.template, Snarkjs.template]; tauto

/-- A contract of the repository has a key. -/
theorem Contract.exists_key {contract : Contract} (member : contract ∈ contracts)
    (valid : contract.Valid twisted) :
    ∃ key : Groth16.Key G1 G2 contract.inputs,
      contract.verifyingKey.Encodes contract.generator.template twisted key ∧ key.Regular := by
  have checked := contracts_checked member
  obtain ⟨beta, beta_eq⟩ := valid.beta
  obtain ⟨gamma, gamma_eq⟩ := valid.gamma
  obtain ⟨delta, delta_eq⟩ := valid.delta
  obtain ⟨alpha, points, spelled⟩ : ∃ alpha : G1, ∃ points : List G1,
      G1.encode alpha = contract.verifyingKey.alpha ∧
        points.map G1.encode = contract.verifyingKey.gamma_abc := by
    obtain ⟨Ps, Ps_eq⟩ := exists_encode checked.decodes
    obtain ⟨alpha, points, rfl, spelled⟩ := List.map_eq_cons_iff.mp Ps_eq
    exact ⟨alpha, points, spelled⟩
  obtain ⟨constant, inputs, rfl⟩ : ∃ constant : G1, ∃ inputs : Fin contract.inputs → G1,
      points = constant :: List.ofFn inputs := by
    have length_eq : points.length = contract.inputs + 1 := by
      rw [← checked.length_eq, ← spelled.2, List.length_map]
    obtain ⟨constant, rest, rfl⟩ := List.exists_cons_of_length_eq_add_one length_eq
    obtain ⟨inputs, rfl⟩ := exists_ofFn (Nat.succ.inj length_eq)
    exact ⟨constant, inputs, rfl⟩
  have gamma_abc_eq : contract.verifyingKey.gamma_abc =
      G1.encode constant :: List.ofFn fun i => G1.encode (inputs i) := by
    rw [← spelled.2, List.map_cons, List.map_ofFn]
    rfl
  refine ⟨⟨alpha, beta, gamma, delta, constant, inputs⟩,
    ⟨spelled.1.symm, beta_eq, gamma_eq, delta_eq, gamma_abc_eq⟩, ?_, ?_, ?_⟩
  · rintro rfl
    rw [twisted.encode_zero, words_eq_zero_iff] at gamma_eq
    exact checked.gamma_ne_zero gamma_eq
  · intro i neutral
    apply checked.nonzero (G1.encode (inputs i))
    · rw [gamma_abc_eq]
      exact List.mem_cons_of_mem _ (List.mem_ofFn.mpr ⟨i, rfl⟩)
    · rw [show inputs i = 0 from neutral, G1.encode_zero]
  · have nodup := checked.nodup
    rw [← spelled.2] at nodup
    exact List.nodup_ofFn.mp (List.nodup_cons.mp (List.Nodup.of_map _ nodup)).2

end Keys

section Binding

variable {G2 T : Type} [AddCommGroup G2] [Module Fr G2] [AddCommGroup T] [DecidableEq T]
  {e : Groth16.Pairing Fr G1 G2 T} {twisted : G2Encoding G2} {n : ℕ}

/-- One input is changed, or two different ones are exchanged. -/
def Altered (input other : Fin n → U256) : Prop :=
  (∃ i, other i ≠ input i ∧ ∀ j, j ≠ i → other j = input j) ∨
    ∃ i j, input i ≠ input j ∧ other = input ∘ Equiv.swap i j

theorem scalars_ne {input other : Fin n → U256} (reduced : Reduced input)
    (otherReduced : Reduced other) {i j : Fin n} (different : other j ≠ input i) :
    scalars other j ≠ scalars input i := by
  intro same
  exact different (BitVec.eq_of_toNat_eq (cast_injOn_lt (otherReduced j) (reduced i) same))

/-- The public inputs of every contract are bound: no proof is accepted both for some inputs
and for altered ones. -/
theorem inputs_bound {contract : Contract} (member : contract ∈ contracts)
    (valid : contract.Valid twisted) (words : Proof) {input other : Fin contract.inputs → U256}
    (altered : Altered input other) :
    ¬ (contract.verifyProof (precompiles e twisted) words input = .ok true ∧
      contract.verifyProof (precompiles e twisted) words other = .ok true) := by
  rintro ⟨accepted, otherAccepted⟩
  obtain ⟨key, encodes, regular⟩ := contract.exists_key member valid
  obtain ⟨reduced, proof, spells, accepts⟩ := (contract.verifyProof_eq_ok_iff encodes).mp accepted
  obtain ⟨otherReduced, proof', spells', otherAccepts⟩ :=
    (contract.verifyProof_eq_ok_iff encodes).mp otherAccepted
  obtain rfl : proof' = proof := by
    rw [← Generator.read_eq_some_iff] at spells spells'
    exact Option.some.inj (spells'.symm.trans spells)
  have accepts := accepts.mp rfl
  have otherAccepts := otherAccepts.mp rfl
  rcases altered with ⟨i, changed, unchanged⟩ | ⟨i, j, different, rfl⟩
  · refine accepts.not_accepts_of_changed regular (scalars_ne reduced otherReduced changed) ?_
      otherAccepts
    intro j other_ne
    simp only [scalars, unchanged j other_ne]
  · exact accepts.not_accepts_swap regular (scalars_ne reduced reduced different) otherAccepts

section Sample

/-- The points of the second group in the key of `createLeaf.verifier.sol`. -/
def createLeafTable : PointTable where
  words := [ZoKrates.template.words createLeaf.verifyingKey.beta,
    ZoKrates.template.words createLeaf.verifyingKey.gamma,
    ZoKrates.template.words createLeaf.verifyingKey.delta]
  nodup := by decide +kernel
  points := by
    simp only [List.forall_mem_cons, List.not_mem_nil, IsEmpty.forall_iff, implies_true, and_true]
    decide +kernel
  short := by decide +kernel

theorem createLeaf_valid : createLeaf.Valid createLeafTable.encoding where
  beta := ⟨1, by decide +kernel⟩
  gamma := ⟨2, by decide +kernel⟩
  delta := ⟨3, by decide +kernel⟩

theorem createLeaf_bound :
    ¬ ∃ words,
      createLeaf.verifyProof (precompiles samplePairing createLeafTable.encoding) words
          (![5, 7] : Fin 2 → U256) = .ok true ∧
        createLeaf.verifyProof (precompiles samplePairing createLeafTable.encoding) words
          (![7, 5] : Fin 2 → U256) = .ok true := by
  rintro ⟨words, bothAccepted⟩
  have altered : Altered (![5, 7] : Fin 2 → U256) ![7, 5] :=
    .inr ⟨0, 1, by decide, by decide⟩
  exact inputs_bound (by simp [contracts]) createLeaf_valid words altered bothAccepted

end Sample

end Binding

end Groth16Verifier

end IdHub
